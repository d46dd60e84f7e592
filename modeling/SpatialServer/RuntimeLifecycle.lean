import SpatialServer.Interference
import SpatialServer.ZoneNames

/-!
# Runtimes under concurrent calls

The store of runtimes hands out pointers: a call looks a record up under the lock, and
reads its fields when the lock is gone. Another call may destroy the runtime in
between. A record is never deleted and its name never given again, and of its fields
only the status changes, once. So what a call reads late is still about the runtime
that it found, and at worst it shows a runtime as destroyed that it found alive.

A listing leaves out what is destroyed when it looks, and reads the status afterwards:
it may show a destroyed runtime, but none that was destroyed before the call.
-/
namespace SpatialServer

open Runs Statements

deriving instance Inhabited for RuntimeStatus
deriving instance Inhabited for RuntimeRecord

/-- A record has the name it is found under, and is active or destroyed. -/
structure RuntimeTable where
  data : Dict RuntimeID ℕ
  records : Heap RuntimeRecord
  found : ∀ id r, data.get id = some r → r < records.next ∧ (records.cell r).id = id ∧
    ((records.cell r).status = .active ∨ (records.cell r).status = .destroyed)

/-- The sections that hold the lock, and the reads that do not. -/
inductive RuntimeOp where
  | create (id : RuntimeID) (zoneCount : ℤ) (zoneSize : ℚ)
  | get (id : RuntimeID)
  | destroy (id : RuntimeID)
  | list (pageToken : String) (pageSize : ℤ)
  | read (r : ℕ)

def RuntimeOp.Reply : RuntimeOp → Type
  | .create _ _ _ | .get _ => Except Err ℕ
  | .destroy _ => Except Err Unit
  | .list _ _ => List ℕ × String
  | .read _ => RuntimeRecord

/-- The time of the clock, and the order in which a map is gone through. -/
structure RuntimeChoice where
  now : Time
  order : List RuntimeID

namespace RuntimeTable

def empty : RuntimeTable := ⟨∅, .empty, fun id r h => by simp at h⟩

def add (s : RuntimeTable) (rec : RuntimeRecord) (hstatus : rec.status = .active) :
    RuntimeTable where
  data := s.data.set rec.id s.records.next
  records := s.records.alloc rec
  found := by
    intro id r hget
    rw [Dict.get_set] at hget
    split_ifs at hget with hid
    · cases hget
      simp [hid, hstatus]
    · obtain ⟨hlt, hname, hs⟩ := s.found id r hget
      rw [Heap.cell_alloc_of_lt _ _ hlt]
      exact ⟨Nat.lt_succ_of_lt hlt, hname, hs⟩

def markDestroyed (s : RuntimeTable) (r : ℕ) : RuntimeTable where
  data := s.data
  records := s.records.write r { s.records.cell r with status := .destroyed }
  found := by
    intro id q hget
    obtain ⟨hlt, hname, hs⟩ := s.found id q hget
    by_cases hq : q = r
    · subst hq
      simpa using ⟨hlt, hname⟩
    · simpa [hq] using ⟨hlt, hname, hs⟩

/-- The references of the runtimes that are not destroyed. -/
def alive (s : RuntimeTable) (order : List RuntimeID) : List ℕ :=
  ((s.data.range order).filterMap s.data.get).filter
    fun r => (s.records.cell r).status ≠ .destroyed

/-- A listing reads neither the token nor the size of a page. -/
def run (s : RuntimeTable) (c : RuntimeChoice) : (op : RuntimeOp) → op.Reply × RuntimeTable
  | .create id zoneCount zoneSize =>
    match s.data.get id with
    | some _ => (.error .conflict, s)
    | none => (.ok s.records.next, s.add ⟨id, .active, zoneCount, zoneSize,
        (List.range zoneCount.toNat).map (numberedZoneID id), c.now⟩ rfl)
  | .get id =>
    match s.data.get id with
    | some r => (.ok r, s)
    | none => (.error .notFound, s)
  | .destroy id =>
    match s.data.get id with
    | some r => (.ok (), s.markDestroyed r)
    | none => (.error .notFound, s)
  | .list _ _ => ((s.alive c.order, ""), s)
  | .read r => (s.records.cell r, s)

end RuntimeTable

/-! ## The calls of the service -/

inductive ProtoStatus where
  | unspecified
  | creating
  | active
  | draining
  | destroyed
  deriving DecidableEq, Repr

def toProtoStatus : RuntimeStatus → ProtoStatus
  | .creating => .creating
  | .active => .active
  | .draining => .draining
  | .destroyed => .destroyed

/-- Nobody sets the number of players of a record. -/
structure RuntimeInfo where
  runtimeID : RuntimeID
  status : ProtoStatus
  zoneCount : ℤ
  playerCount : ℤ
  createdAt : String
  deriving DecidableEq, Repr

inductive ApiReply where
  | created (resp : CreateRuntimeResponse)
  | destroyed
  | info (resp : RuntimeInfo)
  | metrics (runtimeID : RuntimeID) (playerCount : ℤ)
  | listed (runtimes : List RuntimeInfo) (nextPageToken : String)
  | failed (err : ApiError)

abbrev ApiProg (α : Type) := Prog RuntimeOp RuntimeOp.Reply α

inductive ApiCall where
  | createRuntime (req : CreateRuntimeRequest)
  | destroyRuntime (id : RuntimeID)
  | getRuntimeInfo (id : RuntimeID)
  | getRuntimeMetrics (id : RuntimeID)
  | listRuntimes (pageToken : String) (pageSize : ℤ)

namespace ApiCall

variable (s : SpatialServerAPI) (rfc3339 : Time → String)

def infoOf (rec : RuntimeRecord) : RuntimeInfo :=
  ⟨rec.id, toProtoStatus rec.status, rec.zoneCount, 0, rfc3339 rec.createdAt⟩

def createRuntimeProg (req : CreateRuntimeRequest) : ApiProg ApiReply :=
  if req.runtimeID = "" then return .failed ⟨.invalidArgument, "runtime_id is required"⟩
  else do
    let zc := if req.zoneCount ≤ 0 then s.defaultZones else req.zoneCount
    let zs := if req.zoneSize ≤ 0 then s.defaultSize else req.zoneSize
    match ← Prog.query (RuntimeOp.create req.runtimeID zc zs) with
    | .error err => return .failed ⟨.internal, "create runtime: " ++ err.text⟩
    | .ok r =>
      let rec ← Prog.query (RuntimeOp.read r)
      return .created ⟨rec.id, s.gatewayAddr, rec.zoneCount,
        (List.range rec.zoneCount.toNat).map (numberedZoneID rec.id)⟩

def destroyRuntimeProg (id : RuntimeID) : ApiProg ApiReply := do
  match ← Prog.query (RuntimeOp.destroy id) with
  | .error .notFound => return .failed ⟨.notFound, "runtime not found"⟩
  | .error err => return .failed ⟨.internal, "destroy runtime: " ++ err.text⟩
  | .ok () => return .destroyed

/-- A lookup, what is made of the record, and how a failure other than a missing record
is reported. -/
def lookupProg (id : RuntimeID) (context : String) (answer : RuntimeRecord → ApiReply) :
    ApiProg ApiReply := do
  match ← Prog.query (RuntimeOp.get id) with
  | .error .notFound => return .failed ⟨.notFound, "runtime not found"⟩
  | .error err => return .failed ⟨.internal, context ++ err.text⟩
  | .ok r =>
    let rec ← Prog.query (RuntimeOp.read r)
    return answer rec

def getRuntimeInfoProg (id : RuntimeID) : ApiProg ApiReply :=
  lookupProg id "get runtime: " fun rec => .info (infoOf rfc3339 rec)

def getRuntimeMetricsProg (id : RuntimeID) : ApiProg ApiReply :=
  lookupProg id "get runtime metrics: " fun rec => .metrics rec.id 0

def readInfo (r : ℕ) : ApiProg (List RuntimeInfo) := do
  let rec ← Prog.query (RuntimeOp.read r)
  return [infoOf rfc3339 rec]

def listRuntimesProg (pageToken : String) (pageSize : ℤ) : ApiProg ApiReply := do
  let pageSize := if pageSize ≤ 0 then 50 else pageSize
  let (refs, nextToken) ← Prog.query (RuntimeOp.list pageToken pageSize)
  let runtimes ← Prog.collect (readInfo rfc3339) refs
  return .listed runtimes nextToken

def prog : ApiCall → ApiProg ApiReply
  | .createRuntime req => createRuntimeProg s req
  | .destroyRuntime id => destroyRuntimeProg id
  | .getRuntimeInfo id => getRuntimeInfoProg rfc3339 id
  | .getRuntimeMetrics id => getRuntimeMetricsProg id
  | .listRuntimes pageToken pageSize => listRuntimesProg rfc3339 pageToken pageSize

end ApiCall

/-! ## What the calls do to the table -/

namespace RuntimeTable

def Destroyed (s : RuntimeTable) (id : RuntimeID) : Prop :=
  ∃ r, s.data.get id = some r ∧ (s.records.cell r).status = .destroyed

/-- A name stays with its record, and of a record only the status changes, for good. -/
structure Evolves (s t : RuntimeTable) : Prop where
  next_le : s.records.next ≤ t.records.next
  bound : ∀ {id r}, s.data.get id = some r → t.data.get id = some r
  fixed : ∀ {r}, r < s.records.next →
    t.records.cell r = { s.records.cell r with status := (t.records.cell r).status }
  final : ∀ {r}, r < s.records.next → (s.records.cell r).status = .destroyed →
    (t.records.cell r).status = .destroyed

namespace Evolves

variable {s t u : RuntimeTable}

theorem refl (s : RuntimeTable) : Evolves s s := ⟨le_rfl, id, fun _ => rfl, fun _ => id⟩

theorem trans (h : Evolves s t) (h' : Evolves t u) : Evolves s u where
  next_le := h.next_le.trans h'.next_le
  bound hget := h'.bound (h.bound hget)
  fixed hr := by
    rw [h'.fixed (hr.trans_le h.next_le), h.fixed hr]
  final hr hs := h'.final (hr.trans_le h.next_le) (h.final hr hs)

theorem add (s : RuntimeTable) {rec : RuntimeRecord} (hstatus : rec.status = .active)
    (hfree : s.data.get rec.id = none) : Evolves s (s.add rec hstatus) where
  next_le := Nat.le_succ _
  bound {id r} hget := by
    have hne : id ≠ rec.id := by
      rintro rfl
      simp [hfree] at hget
    simpa [RuntimeTable.add, hne] using hget
  fixed hr := by
    have hcell : (s.add rec hstatus).records.cell _ = _ := Heap.cell_alloc_of_lt s.records rec hr
    rw [hcell]
  final hr hs := by
    have hcell : (s.add rec hstatus).records.cell _ = _ := Heap.cell_alloc_of_lt s.records rec hr
    rwa [hcell]

theorem markDestroyed (s : RuntimeTable) (r : ℕ) : Evolves s (s.markDestroyed r) where
  next_le := le_rfl
  bound := id
  fixed {q} _ := by
    by_cases hq : q = r
    · subst hq
      simp [RuntimeTable.markDestroyed]
    · simp [RuntimeTable.markDestroyed, hq]
  final {q} _ hs := by
    by_cases hq : q = r
    · subst hq
      simp [RuntimeTable.markDestroyed]
    · simpa [RuntimeTable.markDestroyed, hq] using hs

theorem run (s : RuntimeTable) (c : RuntimeChoice) (op : RuntimeOp) :
    Evolves s (s.run c op).2 := by
  cases op with
  | create id zoneCount zoneSize =>
    cases hget : s.data.get id with
    | some r => simpa only [RuntimeTable.run, hget] using refl s
    | none => simpa only [RuntimeTable.run, hget] using add s rfl hget
  | get id => cases hget : s.data.get id <;> simpa only [RuntimeTable.run, hget] using refl s
  | destroy id =>
    cases hget : s.data.get id with
    | some r => simpa only [RuntimeTable.run, hget] using markDestroyed s r
    | none => simpa only [RuntimeTable.run, hget] using refl s
  | list pageToken pageSize => exact refl s
  | read r => exact refl s

theorem of_add {rec : RuntimeRecord} {hstatus : rec.status = .active}
    (h : Evolves (s.add rec hstatus) t) : t.data.get rec.id = some s.records.next ∧
      t.records.cell s.records.next =
        { rec with status := (t.records.cell s.records.next).status } := by
  have hnew : (s.add rec hstatus).records.cell s.records.next = rec := Heap.cell_alloc_next _ _
  refine ⟨h.bound (Dict.get_set_self _ _ _), ?_⟩
  rw [h.fixed (Nat.lt_succ_self _), hnew]

theorem get_eq_none (h : Evolves s t) {id : RuntimeID} (hget : t.data.get id = none) :
    s.data.get id = none := by
  cases hs : s.data.get id with
  | none => rfl
  | some r => exact absurd (h.bound hs) (by simp [hget])

theorem destroyed (h : Evolves s t) {id : RuntimeID} : s.Destroyed id → t.Destroyed id := by
  rintro ⟨r, hget, hs⟩
  exact ⟨r, h.bound hget, h.final (s.found id r hget).1 hs⟩

end Evolves

end RuntimeTable

/-! ## The store of records

Without the references the table is the store in memory, and the sections that change it
do what the store does.
-/

namespace RuntimeTable

def Holds (s : RuntimeTable) (m : MemoryRuntimeStore) : Prop :=
  ∀ id, m.get id = (s.data.get id).map s.records.cell

variable {s : RuntimeTable} {m : MemoryRuntimeStore}

theorem Holds.add (h : s.Holds m) {rec : RuntimeRecord} (hstatus : rec.status = .active) :
    (s.add rec hstatus).Holds (m.set rec.id rec) := by
  intro id
  by_cases hid : id = rec.id
  · subst hid
    simp [RuntimeTable.add]
  · rw [Dict.get_set_ne m rec hid, h id, RuntimeTable.add, Dict.get_set_ne s.data _ hid]
    cases hget : s.data.get id with
    | none => rfl
    | some r => simp [Heap.cell_alloc_of_lt _ _ (s.found id r hget).1]

theorem Holds.markDestroyed (h : s.Holds m) {id : RuntimeID} {r : ℕ}
    (hget : s.data.get id = some r) : (s.markDestroyed r).Holds
      (m.set id { s.records.cell r with status := .destroyed }) := by
  intro q
  by_cases hq : q = id
  · subst hq
    simp [RuntimeTable.markDestroyed, hget]
  · rw [Dict.get_set_ne m _ hq, h q, RuntimeTable.markDestroyed]
    cases hgetq : s.data.get q with
    | none => rfl
    | some r' =>
      have hne : r' ≠ r := by
        rintro rfl
        exact hq ((s.found q r' hgetq).2.1.symm.trans (s.found id r' hget).2.1)
      simp [hne]

theorem Holds.create (h : s.Holds m) (id : RuntimeID) (zoneCount : ℤ) (zoneSize : ℚ)
    (c : RuntimeChoice) :
    (∀ err, m.create id zoneCount zoneSize c.now = .error err →
      s.run c (.create id zoneCount zoneSize) = (.error err, s)) ∧
    ∀ rec m', m.create id zoneCount zoneSize c.now = .ok (rec, m') →
      ∃ r s', s.run c (.create id zoneCount zoneSize) = (.ok r, s') ∧
        s'.records.cell r = rec ∧ s'.Holds m' := by
  cases hget : s.data.get id with
  | some r =>
    simp only [MemoryRuntimeStore.create, h id, RuntimeTable.run, hget, Option.map_some]
    exact ⟨fun err herr => (by cases herr; rfl), fun rec m' hok => (by cases hok)⟩
  | none =>
    simp only [MemoryRuntimeStore.create, h id, RuntimeTable.run, hget, Option.map_none]
    refine ⟨fun err herr => (by cases herr), fun rec m' hok => ?_⟩
    cases hok
    exact ⟨_, _, rfl, Heap.cell_alloc_next _ _, h.add rfl⟩

theorem Holds.destroy (h : s.Holds m) (id : RuntimeID) (c : RuntimeChoice) :
    (∀ err, m.destroy id = .error err → s.run c (.destroy id) = (.error err, s)) ∧
    ∀ m', m.destroy id = .ok m' → ∃ s', s.run c (.destroy id) = (.ok (), s') ∧ s'.Holds m' := by
  cases hget : s.data.get id with
  | none =>
    simp only [MemoryRuntimeStore.destroy, h id, RuntimeTable.run, hget, Option.map_none]
    exact ⟨fun err herr => (by cases herr; rfl), fun m' hok => (by cases hok)⟩
  | some r =>
    simp only [MemoryRuntimeStore.destroy, h id, RuntimeTable.run, hget, Option.map_some]
    refine ⟨fun err herr => (by cases herr), fun m' hok => ?_⟩
    cases hok
    exact ⟨_, rfl, h.markDestroyed hget⟩

end RuntimeTable

/-! ## What the answers say -/

namespace RuntimeTable

variable (rfc3339 : Time → String)

/-- The line is about the record of its name. It says active only if the runtime was not
destroyed before, and destroyed only if it is so afterwards. -/
def Shows (m t : RuntimeTable) (info : RuntimeInfo) : Prop :=
  ∃ r, t.data.get info.runtimeID = some r ∧
    info = { ApiCall.infoOf rfc3339 (t.records.cell r) with status := info.status } ∧
    (info.status = .active ∧ ¬ m.Destroyed info.runtimeID ∨
      info.status = .destroyed ∧ t.Destroyed info.runtimeID)

variable {rfc3339} {m s t u : RuntimeTable}

theorem Shows.later {info : RuntimeInfo} (h : Shows rfc3339 m t info) (hu : Evolves t u) :
    Shows rfc3339 m u info := by
  obtain ⟨r, hget, hinfo, hstatus⟩ := h
  refine ⟨r, hu.bound hget, ?_, hstatus.imp_right (And.imp_right hu.destroyed)⟩
  rw [hu.fixed (t.found _ r hget).1]
  exact hinfo

/-- What is read of a record that was found is about its runtime. -/
theorem Shows.read (hm : Evolves m s) {id : RuntimeID} {r : ℕ} (hget : s.data.get id = some r) :
    Shows rfc3339 m s (ApiCall.infoOf rfc3339 (s.records.cell r)) := by
  obtain ⟨hlt, rfl, hstatus⟩ := s.found id r hget
  refine ⟨r, hget, rfl, ?_⟩
  obtain hactive | hdestroyed := hstatus
  · refine .inl ⟨by simp [ApiCall.infoOf, hactive, toProtoStatus], fun hgone => ?_⟩
    obtain ⟨q, hq, hs⟩ := hm.destroyed hgone
    cases hget.symm.trans hq
    simp [hactive] at hs
  · exact .inr ⟨by simp [ApiCall.infoOf, hdestroyed, toProtoStatus], r, hget, hdestroyed⟩

theorem mem_alive {order : List RuntimeID} {r : ℕ} : r ∈ s.alive order ↔
    (∃ id, s.data.get id = some r) ∧ (s.records.cell r).status ≠ .destroyed := by
  simp only [alive, List.mem_filter, List.mem_filterMap, Dict.mem_range_iff_exists, ne_eq,
    decide_not, Bool.not_eq_eq_eq_not, Bool.not_true, decide_eq_false_iff_not]
  constructor
  · rintro ⟨⟨id, -, hget⟩, hs⟩
    exact ⟨⟨id, hget⟩, hs⟩
  · rintro ⟨⟨id, hget⟩, hs⟩
    exact ⟨⟨id, ⟨r, hget⟩, hget⟩, hs⟩

theorem eq_of_get {id id' : RuntimeID} {r : ℕ} (h : s.data.get id = some r)
    (h' : s.data.get id' = some r) : id = id' :=
  (s.found id r h).2.1.symm.trans (s.found id' r h').2.1

theorem nodup_alive (s : RuntimeTable) (order : List RuntimeID) : (s.alive order).Nodup := by
  refine (List.Nodup.filterMap ?_ (Dict.nodup_range order s.data)).filter _
  intro id id' r h h'
  exact eq_of_get h h'

end RuntimeTable

namespace ApiCall

open RuntimeTable

/-- What a reply says of the table when its call begins and after it has returned. -/
def Answers (s : SpatialServerAPI) (rfc3339 : Time → String) (m t : RuntimeTable) :
    ApiCall → ApiReply → Prop
  | .createRuntime req, .created resp => req.runtimeID ≠ "" ∧ m.data.get req.runtimeID = none ∧
    ∃ r, t.data.get req.runtimeID = some r ∧
      (t.records.cell r).zoneCount =
        (if req.zoneCount ≤ 0 then s.defaultZones else req.zoneCount) ∧
      resp = ⟨req.runtimeID, s.gatewayAddr, (t.records.cell r).zoneCount,
        (t.records.cell r).zoneIDs⟩
  | .createRuntime req, .failed err =>
    req.runtimeID = "" ∧ err = ⟨.invalidArgument, "runtime_id is required"⟩ ∨
      (t.data.get req.runtimeID).isSome ∧ err = ⟨.internal, "create runtime: conflict"⟩
  | .destroyRuntime id, .destroyed => t.Destroyed id
  | .getRuntimeInfo id, .info info => info.runtimeID = id ∧ Shows rfc3339 m t info
  | .getRuntimeMetrics id, .metrics runtimeID _ =>
    runtimeID = id ∧ (t.data.get id).isSome
  | .destroyRuntime id, .failed err | .getRuntimeInfo id, .failed err
  | .getRuntimeMetrics id, .failed err =>
    m.data.get id = none ∧ err = ⟨.notFound, "runtime not found"⟩
  | .listRuntimes _ _, .listed infos nextToken => nextToken = "" ∧
    (infos.map (·.runtimeID)).Nodup ∧
    (∀ info ∈ infos, Shows rfc3339 m t info ∧ ¬ m.Destroyed info.runtimeID) ∧
    ∀ id, (m.data.get id).isSome → ¬ t.Destroyed id → ∃ info ∈ infos, info.runtimeID = id
  | _, _ => False

/-- The call keeps to its answers from the table `s` on, if it began at the table `m`. -/
abbrev Keeps {α : Type} (p : ApiProg α) (Q : α → RuntimeTable → Prop) (s : RuntimeTable) : Prop :=
  p.rg RuntimeTable.run (fun _ _ _ => True) Evolves (fun _ _ _ => True) Q s

section Keeps

variable {s : SpatialServerAPI} {rfc3339 : Time → String} {m : RuntimeTable}

theorem keeps_createRuntime (req : CreateRuntimeRequest) :
    Keeps (createRuntimeProg s req)
      (fun reply t => Answers s rfc3339 m t (.createRuntime req) reply) m := by
  by_cases hid : req.runtimeID = ""
  · rw [createRuntimeProg, if_pos hid]
    exact fun t _ => .inl ⟨hid, rfl⟩
  rw [createRuntimeProg, if_neg hid]
  intro t ht c _
  refine ⟨trivial, ?_⟩
  cases hget : t.data.get req.runtimeID with
  | some r =>
    simp only [RuntimeTable.run, hget]
    exact fun u hu => .inr ⟨by simp [hu.bound hget], rfl⟩
  | none =>
    simp only [RuntimeTable.run, hget]
    intro u hu d _
    refine ⟨trivial, fun v hv => ⟨hid, ht.get_eq_none hget, t.records.next, ?_⟩⟩
    obtain ⟨-, hcell⟩ := hu.of_add
    obtain ⟨hgetv, hcellv⟩ := (hu.trans hv).of_add
    have hread : (u.run d (.read t.records.next)).1 = _ := hcell
    refine ⟨hgetv, by rw [hcellv], ?_⟩
    rw [hcellv, hread]

/-- The lookup fails only if the name was free when the call began. What it finds, it
reads from a later table. -/
theorem keeps_lookup {id : RuntimeID} {context : String} {answer : RuntimeRecord → ApiReply}
    {Q : ApiReply → RuntimeTable → Prop}
    (hnone : m.data.get id = none → ∀ t, Q (.failed ⟨.notFound, "runtime not found"⟩) t)
    (hsome : ∀ t u r, Evolves m t → Evolves t u → t.data.get id = some r →
      Q (answer (t.records.cell r)) u) : Keeps (lookupProg id context answer) Q m := by
  intro t ht c _
  refine ⟨trivial, ?_⟩
  cases hget : t.data.get id with
  | none =>
    simp only [RuntimeTable.run, hget]
    exact fun u _ => hnone (ht.get_eq_none hget) u
  | some r =>
    simp only [RuntimeTable.run, hget]
    intro u hu d _
    exact ⟨trivial, fun v hv => hsome u v r (ht.trans hu) hv (hu.bound hget)⟩

theorem keeps_destroyRuntime (id : RuntimeID) :
    Keeps (destroyRuntimeProg id)
      (fun reply t => Answers s rfc3339 m t (.destroyRuntime id) reply) m := by
  intro t ht c _
  refine ⟨trivial, ?_⟩
  cases hget : t.data.get id with
  | none =>
    simp only [RuntimeTable.run, hget]
    exact fun u _ => ⟨ht.get_eq_none hget, rfl⟩
  | some r =>
    simp only [RuntimeTable.run, hget]
    have hgone : (t.markDestroyed r).Destroyed id := ⟨r, hget, by simp [RuntimeTable.markDestroyed]⟩
    exact fun u hu => hu.destroyed hgone

theorem keeps_getRuntimeInfo (id : RuntimeID) :
    Keeps (getRuntimeInfoProg rfc3339 id)
      (fun reply t => Answers s rfc3339 m t (.getRuntimeInfo id) reply) m := by
  refine keeps_lookup (fun hnone _ => ⟨hnone, rfl⟩) fun t u r ht hu hget => ?_
  exact ⟨(t.found id r hget).2.1, (Shows.read ht hget).later hu⟩

theorem keeps_getRuntimeMetrics (id : RuntimeID) :
    Keeps (getRuntimeMetricsProg id)
      (fun reply t => Answers s rfc3339 m t (.getRuntimeMetrics id) reply) m := by
  refine keeps_lookup (fun hnone _ => ⟨hnone, rfl⟩) fun t u r ht hu hget => ?_
  exact ⟨(t.found id r hget).2.1, by simp [hu.bound hget]⟩

/-- The lines that were read for the references, in the same order, as they stand in a
later table. -/
structure Lines (rfc3339 : Time → String) (m t : RuntimeTable) (refs : List ℕ)
    (infos : List RuntimeInfo) : Prop where
  refs_eq : infos.map (fun info => t.data.get info.runtimeID) = refs.map some
  shown : ∀ info ∈ infos, Shows rfc3339 m t info

namespace Lines

variable {t u : RuntimeTable} {refs : List ℕ} {infos : List RuntimeInfo}

theorem later (h : Lines rfc3339 m t refs infos) (hu : Evolves t u) :
    Lines rfc3339 m u refs infos where
  refs_eq := by
    rw [← h.refs_eq]
    refine List.map_congr_left fun info hinfo => ?_
    obtain ⟨r, hget, -⟩ := h.shown info hinfo
    rw [hget, hu.bound hget]
  shown info hinfo := (h.shown info hinfo).later hu

theorem single (hm : Evolves m t) {id : RuntimeID} {r : ℕ} (hget : t.data.get id = some r) :
    Lines rfc3339 m t [r] [infoOf rfc3339 (t.records.cell r)] where
  refs_eq := by
    have hname : (infoOf rfc3339 (t.records.cell r)).runtimeID = id := (t.found id r hget).2.1
    simp [hname, hget]
  shown := by simpa using Shows.read hm hget

theorem append {refs' : List ℕ} {infos' : List RuntimeInfo} (h : Lines rfc3339 m t refs infos)
    (h' : Lines rfc3339 m t refs' infos') : Lines rfc3339 m t (refs ++ refs') (infos ++ infos') where
  refs_eq := by rw [List.map_append, List.map_append, h.refs_eq, h'.refs_eq]
  shown := List.forall_mem_append.mpr ⟨h.shown, h'.shown⟩

theorem nodup (h : Lines rfc3339 m t refs infos) (hrefs : refs.Nodup) :
    (infos.map (·.runtimeID)).Nodup := by
  refine List.Nodup.of_map t.data.get ?_
  rw [List.map_map]
  exact h.refs_eq ▸ hrefs.map (Option.some_injective _)

theorem exists_ref (h : Lines rfc3339 m t refs infos) {info : RuntimeInfo} (hinfo : info ∈ infos) :
    ∃ r ∈ refs, t.data.get info.runtimeID = some r := by
  have hmem : t.data.get info.runtimeID ∈ refs.map some :=
    h.refs_eq ▸ List.mem_map_of_mem hinfo
  obtain ⟨r, hr, heq⟩ := List.mem_map.mp hmem
  exact ⟨r, hr, heq.symm⟩

theorem exists_info (h : Lines rfc3339 m t refs infos) {r : ℕ} (hr : r ∈ refs) :
    ∃ info ∈ infos, t.data.get info.runtimeID = some r := by
  have hmem : some r ∈ refs.map some := List.mem_map_of_mem hr
  rw [← h.refs_eq] at hmem
  exact List.mem_map.mp hmem

end Lines

/-- The loop over what was found. -/
theorem keeps_readInfos {refs : List ℕ} {t : RuntimeTable} (ht : Evolves m t)
    (hrefs : ∀ r ∈ refs, ∃ id, t.data.get id = some r) :
    Keeps (Prog.collect (readInfo rfc3339) refs)
      (fun infos u => Evolves t u ∧ Lines rfc3339 m u refs infos) t := by
  induction refs generalizing t with
  | nil => exact fun u hu => ⟨hu, rfl, by simp⟩
  | cons r refs ih =>
    intro u hu c _
    refine ⟨trivial, ?_⟩
    obtain ⟨id, hget⟩ := hrefs r (by simp)
    have hrest : ∀ q ∈ refs, ∃ id, u.data.get id = some q := by
      intro q hq
      obtain ⟨id, hid⟩ := hrefs q (by simp [hq])
      exact ⟨id, hu.bound hid⟩
    have hfirst : Lines rfc3339 m u [r] _ := .single (ht.trans hu) (hu.bound hget)
    refine Prog.rg_bind Evolves.refl (p := Prog.collect (readInfo rfc3339) refs)
      (Prog.rg_mono (fun _ _ _ h => h) ?_ (ih (ht.trans hu) hrest))
    rintro infos v ⟨hv, hlines⟩ w hw
    have huw := hv.trans hw
    exact ⟨hu.trans huw, (hfirst.later huw).append (hlines.later hw)⟩

theorem keeps_listRuntimes (pageToken : String) (pageSize : ℤ) :
    Keeps (listRuntimesProg rfc3339 pageToken pageSize)
      (fun reply t => Answers s rfc3339 m t (.listRuntimes pageToken pageSize) reply) m := by
  intro t ht c _
  refine ⟨trivial, ?_⟩
  have hrefs : ∀ r ∈ t.alive c.order, ∃ id, t.data.get id = some r :=
    fun r hr => (mem_alive.mp hr).1
  refine Prog.rg_bind Evolves.refl (p := Prog.collect (readInfo rfc3339) (t.alive c.order))
    (Prog.rg_mono (fun _ _ _ h => h) ?_ (keeps_readInfos ht hrefs))
  rintro infos u ⟨hu, hlines⟩ v hv
  have hlines := hlines.later hv
  have htv := hu.trans hv
  refine ⟨rfl, hlines.nodup (nodup_alive t c.order), ?_, ?_⟩
  · intro info hinfo
    obtain ⟨r, hr, hget⟩ := hlines.exists_ref hinfo
    refine ⟨hlines.shown info hinfo, fun hgone => ?_⟩
    obtain ⟨q, hq, hs⟩ := ht.destroyed hgone
    cases hget.symm.trans (htv.bound hq)
    exact (mem_alive.mp hr).2 hs
  · intro id hid halive
    obtain ⟨r, hget⟩ := Option.isSome_iff_exists.mp hid
    have hgetv := htv.bound (ht.bound hget)
    have hr : r ∈ t.alive c.order := by
      refine mem_alive.mpr ⟨⟨id, ht.bound hget⟩, fun hs => halive ?_⟩
      exact htv.destroyed ⟨r, ht.bound hget, hs⟩
    obtain ⟨info, hinfo, hgeti⟩ := hlines.exists_info hr
    exact ⟨info, hinfo, eq_of_get hgeti hgetv⟩

theorem keeps_prog (call : ApiCall) :
    Keeps (call.prog s rfc3339) (fun reply t => call.Answers s rfc3339 m t reply) m := by
  cases call with
  | createRuntime req => exact keeps_createRuntime req
  | destroyRuntime id => exact keeps_destroyRuntime id
  | getRuntimeInfo id => exact keeps_getRuntimeInfo id
  | getRuntimeMetrics id => exact keeps_getRuntimeMetrics id
  | listRuntimes pageToken pageSize => exact keeps_listRuntimes pageToken pageSize

end Keeps

/-! ## Calls that run together -/

abbrev ApiPool := Pool RuntimeOp RuntimeOp.Reply RuntimeTable ApiReply

def ApiPool.after (p : ApiPool) (evs : List (ℕ × RuntimeChoice)) : ApiPool :=
  exec (Pool.step RuntimeTable.run) p evs

section Pools

variable {s : SpatialServerAPI} {rfc3339 : Time → String} {p : ApiPool} {i : ℕ} {call : ApiCall}
  {evs : List (ℕ × RuntimeChoice)}

theorem answers_after (hbegin : p.threads i = call.prog s rfc3339) {reply : ApiReply}
    (hreply : ((p.after evs).threads i).result = some reply) :
    call.Answers s rfc3339 p.store (p.after evs).store reply := by
  have hkeeps := Pool.rg_exec_of_sem Evolves.refl (fun _ _ _ => .trans) Evolves.run
    (hbegin ▸ keeps_prog call) evs
  rw [ApiPool.after] at hreply
  rw [Prog.result_eq_some.mp hreply] at hkeeps
  exact hkeeps _ (.refl _)

/-- How long a call takes is known with its first reply. -/
theorem exists_within_of_prog {op : RuntimeOp} {k : op.Reply → ApiProg ApiReply}
    (h : call.prog s rfc3339 = .step op k) (r : op.Reply) : ∃ n, (k r).Within n := by
  cases call with
  | createRuntime req =>
    by_cases hid : req.runtimeID = ""
    · simp [prog, createRuntimeProg, hid] at h
    · rw [prog, createRuntimeProg, if_neg hid] at h
      cases h
      rcases r with err | q
      · exact ⟨0, trivial⟩
      · exact ⟨1, Nat.one_pos, fun _ => trivial⟩
  | destroyRuntime id =>
    cases h
    rcases r with (_ | _ | _ | _ | _) | _ <;> exact ⟨0, trivial⟩
  | getRuntimeInfo id | getRuntimeMetrics id =>
    cases h
    rcases r with (_ | _ | _ | _ | _) | q
    case ok => exact ⟨1, Nat.one_pos, fun _ => trivial⟩
    all_goals exact ⟨0, trivial⟩
  | listRuntimes pageToken pageSize =>
    cases h
    have hread : ∀ q, (readInfo rfc3339 q).Within 1 := fun q => ⟨Nat.one_pos, fun _ => trivial⟩
    exact ⟨_, (Prog.Within.collect hread r.1).bind (n := 0) fun _ => trivial⟩

/-- Once a call has created the name, nobody else's call that has not begun does. -/
theorem not_created_of_bound {req : CreateRuntimeRequest} {resp : CreateRuntimeResponse}
    (hbegin : p.threads i = (createRuntime req).prog s rfc3339)
    (hbound : (p.store.data.get req.runtimeID).isSome) :
    ((p.after evs).threads i).result ≠ some (.created resp) := by
  intro hreply
  have hfree := (answers_after hbegin hreply).2.1
  simp [hfree] at hbound

theorem isSome_get_of_turn {req : CreateRuntimeRequest} {ev : ℕ × RuntimeChoice}
    (hbegin : p.threads ev.1 = (createRuntime req).prog s rfc3339) (hid : req.runtimeID ≠ "") :
    ((p.step RuntimeTable.run ev).store.data.get req.runtimeID).isSome := by
  rw [prog, createRuntimeProg, if_neg hid] at hbegin
  rw [Pool.step_of_step hbegin]
  cases hget : p.store.data.get req.runtimeID with
  | some r => simp [RuntimeTable.run, hget]
  | none => simp [RuntimeTable.run, hget, RuntimeTable.add]

/-- The two calls cannot both find the name free: the one whose turn comes first binds it. -/
theorem not_both_created {j : ℕ} {req req' : CreateRuntimeRequest}
    {resp resp' : CreateRuntimeResponse} (hij : i ≠ j)
    (hi : p.threads i = (createRuntime req).prog s rfc3339)
    (hj : p.threads j = (createRuntime req').prog s rfc3339)
    (hname : req'.runtimeID = req.runtimeID) (hid : req.runtimeID ≠ "")
    (hcreated : ((p.after evs).threads i).result = some (.created resp)) :
    ((p.after evs).threads j).result ≠ some (.created resp') := by
  induction evs generalizing p with
  | nil =>
    rw [ApiPool.after, exec_nil, hi, prog, createRuntimeProg, if_neg hid] at hcreated
    cases hcreated
  | cons ev evs ih =>
    have hafter : p.after (ev :: evs) = ApiPool.after (p.step RuntimeTable.run ev) evs := rfl
    have hothers : ∀ q, q ≠ ev.1 → (p.step RuntimeTable.run ev).threads q = p.threads q :=
      fun q => Pool.threads_step_ne p ev
    rw [hafter] at hcreated ⊢
    by_cases hei : i = ev.1
    · subst hei
      refine not_created_of_bound ((hothers j hij.symm).trans hj) ?_
      rw [hname]
      exact isSome_get_of_turn hi hid
    · have hi' := (hothers i hei).trans hi
      by_cases hej : j = ev.1
      · subst hej
        have hbound := isSome_get_of_turn hj (hname ▸ hid)
        exact absurd hcreated (not_created_of_bound hi' (hname ▸ hbound))
      · exact ih hi' ((hothers j hej).trans hj) hcreated

end Pools

/-- Whatever other calls are under way and however their steps fall between its own, a call
of the service answers truly about the runtimes between its beginning and its return, and
it returns: how many turns it takes is settled by its first. -/
theorem runtime_calls_answer (s : SpatialServerAPI) (rfc3339 : Time → String) (p : ApiPool)
    (i : ℕ) (call : ApiCall) (hbegin : p.threads i = call.prog s rfc3339)
    (evs : List (ℕ × RuntimeChoice)) :
    (∀ reply, ((p.after evs).threads i).result = some reply →
      call.Answers s rfc3339 p.store (p.after evs).store reply) ∧
    ((∃ ev ∈ evs, ev.1 = i) →
      ∃ n, ∀ later : List (ℕ × RuntimeChoice), n ≤ later.countP (fun ev => ev.1 = i) →
        ((p.after (evs ++ later)).threads i).result.isSome) := by
  refine ⟨fun reply => answers_after hbegin, fun hturn => ?_⟩
  refine Pool.exists_turns (fun op k hstep => ?_) hturn
  exact exists_within_of_prog (hbegin.symm.trans hstep)

/-- A listing that meets a runtime alive and reads it destroyed. -/
theorem listing_shows_destroyed_runtime :
    let s := SpatialServerAPI.new "gateway:8080"
    let p : ApiPool := ⟨RuntimeTable.empty.add ⟨"lobby", .active, 1, 100, ["lobby-z1"], 0⟩ rfl,
      fun i => if i = 0 then (listRuntimes "" 10).prog s toString
        else (destroyRuntime "lobby").prog s toString⟩
    let evs : List (ℕ × RuntimeChoice) := [(0, ⟨1, []⟩), (1, ⟨2, []⟩), (0, ⟨3, []⟩)]
    let lines : List RuntimeInfo := [⟨"lobby", .destroyed, 1, 0, "0"⟩]
    ((p.after evs).threads 0).result = some (.listed lines "") ∧
      Answers s toString p.store (p.after evs).store (listRuntimes "" 10) (.listed lines "") := by
  intro s p evs lines
  have hreply : ((p.after evs).threads 0).result = some (.listed lines "") := by rfl
  exact ⟨hreply, (runtime_calls_answer s toString p 0 _ rfl evs).1 _ hreply⟩

/-- Of the calls that create one runtime at most one succeeds. If one has, every other that
returns reports a conflict. -/
theorem runtime_created_once (s : SpatialServerAPI) (rfc3339 : Time → String) (p : ApiPool)
    {i j : ℕ} (hij : i ≠ j) (req req' : CreateRuntimeRequest)
    (hi : p.threads i = (createRuntime req).prog s rfc3339)
    (hj : p.threads j = (createRuntime req').prog s rfc3339)
    (hname : req'.runtimeID = req.runtimeID) {evs : List (ℕ × RuntimeChoice)}
    {resp : CreateRuntimeResponse} {reply : ApiReply}
    (hcreated : ((p.after evs).threads i).result = some (.created resp))
    (hreply : ((p.after evs).threads j).result = some reply) :
    reply = .failed ⟨.internal, "create runtime: conflict"⟩ := by
  have hid : req.runtimeID ≠ "" := (answers_after hi hcreated).1
  have hanswer := answers_after hj hreply
  cases reply with
  | created resp' => exact absurd hreply (not_both_created hij hi hj hname hid hcreated)
  | failed err =>
    obtain ⟨hempty, -⟩ | ⟨-, rfl⟩ := hanswer
    · exact absurd (hname.symm.trans hempty) hid
    · rfl
  | destroyed | info _ | metrics _ _ | listed _ _ => exact hanswer.elim

/-- The call that comes second fails while the first has not answered yet. -/
theorem second_lobby_conflicts :
    let s := SpatialServerAPI.new "gateway:8080"
    let req : CreateRuntimeRequest := ⟨"lobby", 2, 0⟩
    let p : ApiPool := ⟨RuntimeTable.empty, fun _ => (createRuntime req).prog s toString⟩
    let evs : List (ℕ × RuntimeChoice) := [(1, ⟨1, []⟩), (0, ⟨2, []⟩), (1, ⟨3, []⟩)]
    ((p.after evs).threads 1).result =
        some (.created ⟨"lobby", "gateway:8080", 2, ["lobby-z1", "lobby-z2"]⟩) ∧
      ∀ reply, ((p.after evs).threads 0).result = some reply →
        reply = .failed ⟨.internal, "create runtime: conflict"⟩ := by
  intro s req p evs
  have hcreated : ((p.after evs).threads 1).result =
      some (.created ⟨"lobby", "gateway:8080", 2, ["lobby-z1", "lobby-z2"]⟩) := by rfl
  exact ⟨hcreated, fun reply hreply =>
    runtime_created_once s toString p (by decide) req req rfl rfl rfl hcreated hreply⟩

end ApiCall

end SpatialServer

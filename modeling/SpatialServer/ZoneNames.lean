import SpatialServer.Decimals
import SpatialServer.Entities
import SpatialServer.Runs

/-!
# Names of zones

A zone is named after its runtime and its place on the grid, or after its runtime and
its number. The name of a runtime is any text and is written without escapes, so it
may contain the separators and digits. Still the names can be read from the right.

The store in memory writes the numbered names into the record of a new runtime, and
the service that creates runtimes writes them once more into its answer.
-/
namespace SpatialServer

open Runs Decimals

def newZoneID (runtimeID : RuntimeID) (gridX gridY : ℤ) : ZoneID :=
  runtimeID ++ ":" ++ toString gridX ++ ":" ++ toString gridY

/-- The name that the turn `i` of a loop over the zones of a runtime makes. -/
def numberedZoneID (runtimeID : RuntimeID) (i : ℕ) : ZoneID :=
  runtimeID ++ "-z" ++ toString (i + 1)

theorem toList_newZoneID (r : RuntimeID) (x y : ℤ) : (newZoneID r x y).toList =
    (String.toList r ++ ':' :: (toString x).toList) ++ ':' :: (toString y).toList := by
  simp [newZoneID, String.toList_append]

theorem toList_numberedZoneID (r : RuntimeID) (i : ℕ) : (numberedZoneID r i).toList =
    (String.toList r ++ ['-']) ++ 'z' :: (toString (i + 1)).toList := by
  simp [numberedZoneID, String.toList_append]

theorem newZoneID_injective : Function.Injective fun p : RuntimeID × ℤ × ℤ =>
    newZoneID p.1 p.2.1 p.2.2 := by
  have hcolon : ∀ i : ℤ, ∀ c ∈ (toString i).toList, c ≠ ':' := by
    rintro i c hc rfl
    rcases isDigit_or_sign_of_mem_toString hc with h | h <;> exact absurd h (by decide)
  rintro ⟨r, x, y⟩ ⟨r', x', y'⟩ h
  have hlist := congrArg String.toList h
  simp only [toList_newZoneID] at hlist
  obtain ⟨hfront, -, hy⟩ := append_cons_inj (hcolon y) (hcolon y') (by simp) (by simp) hlist
  obtain ⟨hr, -, hx⟩ := append_cons_inj (hcolon x) (hcolon x') (by simp) (by simp) hfront
  rw [String.toList_inj] at hr hx hy
  rw [hr, toString_int_injective hx, toString_int_injective hy]

theorem numberedZoneID_injective : Function.Injective fun p : RuntimeID × ℕ =>
    numberedZoneID p.1 p.2 := by
  rintro ⟨r, i⟩ ⟨r', i'⟩ h
  have hlist := congrArg String.toList h
  simp only [toList_numberedZoneID] at hlist
  obtain ⟨hfront, -, hi⟩ := append_cons_inj (fun c => isDigit_of_mem_toString)
    (fun c => isDigit_of_mem_toString) (by decide) (by decide) hlist
  have hr : r = r' := String.toList_inj.mp (List.append_cancel_right hfront)
  have hnum : i + 1 = i' + 1 := toString_nat_injective (String.toList_inj.mp hi)
  rw [hr, Nat.succ_injective hnum]

/-- What stands before the last digits is a colon, a sign, or the letter z. -/
theorem newZoneID_ne_numberedZoneID (r r' : RuntimeID) (x y : ℤ) (i : ℕ) :
    newZoneID r x y ≠ numberedZoneID r' i := by
  intro h
  have hlist := congrArg String.toList h
  rw [toList_newZoneID, toList_numberedZoneID] at hlist
  obtain ⟨-, htext⟩ | ⟨-, htext⟩ := toString_int_cases y
  · rw [htext] at hlist
    obtain ⟨-, hsep, -⟩ := append_cons_inj (fun c => isDigit_of_mem_toString)
      (fun c => isDigit_of_mem_toString) (by decide) (by decide) hlist
    exact absurd hsep (by decide)
  · have hsign : (String.toList r ++ ':' :: (toString x).toList ++ [':']) ++
        '-' :: (toString y.natAbs).toList =
        String.toList r' ++ ['-'] ++ 'z' :: (toString (i + 1)).toList := by
      simpa [htext, String.toList_append] using hlist
    obtain ⟨-, hsep, -⟩ := append_cons_inj (fun c => isDigit_of_mem_toString)
      (fun c => isDigit_of_mem_toString) (by decide) (by decide) hsign
    exact absurd hsep (by decide)

/-! ## Runtimes -/

inductive RuntimeStatus where
  | creating
  | active
  | draining
  | destroyed
  deriving DecidableEq, Repr

structure RuntimeRecord where
  id : RuntimeID
  status : RuntimeStatus
  zoneCount : ℤ
  zoneSize : ℚ
  zoneIDs : List ZoneID
  createdAt : Time

abbrev MemoryRuntimeStore := Dict RuntimeID RuntimeRecord

namespace MemoryRuntimeStore

/-- The names are made while the record has the first status; nobody sees it, since
the lock is held. -/
def create (m : MemoryRuntimeStore) (id : RuntimeID) (zoneCount : ℤ) (zoneSize : ℚ) (now : Time) :
    Except Err (RuntimeRecord × MemoryRuntimeStore) :=
  match m.get id with
  | some _ => .error .conflict
  | none =>
    let r : RuntimeRecord := ⟨id, .active, zoneCount, zoneSize,
      (List.range zoneCount.toNat).map (numberedZoneID id), now⟩
    .ok (r, m.set id r)

def destroy (m : MemoryRuntimeStore) (id : RuntimeID) : Except Err MemoryRuntimeStore :=
  match m.get id with
  | none => .error .notFound
  | some r => .ok (m.set id { r with status := .destroyed })

end MemoryRuntimeStore

inductive ApiCode where
  | invalidArgument
  | notFound
  | internal
  deriving DecidableEq, Repr

structure ApiError where
  code : ApiCode
  text : String
  deriving DecidableEq, Repr

structure SpatialServerAPI where
  gatewayAddr : String
  defaultZones : ℤ
  defaultSize : ℚ

structure CreateRuntimeRequest where
  runtimeID : RuntimeID
  zoneCount : ℤ
  zoneSize : ℚ

structure CreateRuntimeResponse where
  runtimeID : RuntimeID
  gatewayAddr : String
  zoneCount : ℤ
  zones : List ZoneID

namespace SpatialServerAPI

def new (gatewayAddr : String) : SpatialServerAPI := ⟨gatewayAddr, 1, 100⟩

/-- The zones of the answer are counted and named from the record. -/
def createRuntime (s : SpatialServerAPI) (m : MemoryRuntimeStore) (req : CreateRuntimeRequest)
    (now : Time) : Except ApiError (CreateRuntimeResponse × MemoryRuntimeStore) :=
  if req.runtimeID = "" then .error ⟨.invalidArgument, "runtime_id is required"⟩
  else
    let zc := if req.zoneCount ≤ 0 then s.defaultZones else req.zoneCount
    let zs := if req.zoneSize ≤ 0 then s.defaultSize else req.zoneSize
    match m.create req.runtimeID zc zs now with
    | .error err => .error ⟨.internal, "create runtime: " ++ err.text⟩
    | .ok (r, m') => .ok (⟨r.id, s.gatewayAddr, r.zoneCount,
        (List.range r.zoneCount.toNat).map (numberedZoneID r.id)⟩, m')

def destroyRuntime (m : MemoryRuntimeStore) (id : RuntimeID) :
    Except ApiError MemoryRuntimeStore :=
  match m.destroy id with
  | .error .notFound => .error ⟨.notFound, "runtime not found"⟩
  | .error err => .error ⟨.internal, "destroy runtime: " ++ err.text⟩
  | .ok m' => .ok m'

end SpatialServerAPI

/-- A call of the service, or of the store beside it. -/
inductive RuntimeCall where
  | createRuntime (req : CreateRuntimeRequest) (now : Time)
  | create (id : RuntimeID) (zoneCount : ℤ) (zoneSize : ℚ) (now : Time)
  | destroyRuntime (id : RuntimeID)

namespace MemoryRuntimeStore

/-- A call that fails leaves the store as it was. -/
def step (s : SpatialServerAPI) (m : MemoryRuntimeStore) : RuntimeCall → MemoryRuntimeStore
  | .createRuntime req now =>
    match s.createRuntime m req now with
    | .ok (_, m') => m'
    | .error _ => m
  | .create id zoneCount zoneSize now =>
    match m.create id zoneCount zoneSize now with
    | .ok (_, m') => m'
    | .error _ => m
  | .destroyRuntime id =>
    match SpatialServerAPI.destroyRuntime m id with
    | .ok m' => m'
    | .error _ => m

/-- Every record names its runtime and its zones. -/
def Named (m : MemoryRuntimeStore) : Prop :=
  ∀ id r, m.get id = some r → r.id = id ∧
    r.zoneIDs = (List.range r.zoneCount.toNat).map (numberedZoneID id)

theorem create_eq_ok {m m' : MemoryRuntimeStore} {id : RuntimeID} {zoneCount : ℤ} {zoneSize : ℚ}
    {now : Time} {r : RuntimeRecord} (h : m.create id zoneCount zoneSize now = .ok (r, m')) :
    r.id = id ∧ r.zoneIDs = (List.range r.zoneCount.toNat).map (numberedZoneID id) ∧
      m' = m.set id r := by
  unfold create at h
  split at h
  · cases h
  · cases h
    exact ⟨rfl, rfl, rfl⟩

theorem createRuntime_eq_ok {s : SpatialServerAPI} {m m' : MemoryRuntimeStore}
    {req : CreateRuntimeRequest} {now : Time} {resp : CreateRuntimeResponse}
    (h : s.createRuntime m req now = .ok (resp, m')) :
    ∃ r zoneCount zoneSize, m.create req.runtimeID zoneCount zoneSize now = .ok (r, m') ∧
      resp.runtimeID = r.id ∧
      resp.zones = (List.range r.zoneCount.toNat).map (numberedZoneID r.id) := by
  by_cases hid : req.runtimeID = ""
  · simp [SpatialServerAPI.createRuntime, hid] at h
  · rcases hcreate : m.create req.runtimeID
      (if req.zoneCount ≤ 0 then s.defaultZones else req.zoneCount)
      (if req.zoneSize ≤ 0 then s.defaultSize else req.zoneSize) now with err | ⟨r, m₁⟩
    · simp [SpatialServerAPI.createRuntime, hid, hcreate] at h
    · simp only [SpatialServerAPI.createRuntime, hid, if_false, hcreate, Except.ok.injEq,
        Prod.mk.injEq] at h
      obtain ⟨rfl, rfl⟩ := h
      exact ⟨r, _, _, hcreate, rfl, rfl⟩

theorem Named.create {m m' : MemoryRuntimeStore} (hm : m.Named) {id : RuntimeID} {zoneCount : ℤ}
    {zoneSize : ℚ} {now : Time} {r : RuntimeRecord}
    (h : m.create id zoneCount zoneSize now = .ok (r, m')) : m'.Named := by
  obtain ⟨hid, hzones, rfl⟩ := create_eq_ok h
  intro id' r' hget
  rw [Dict.get_set] at hget
  split_ifs at hget with heq
  · cases hget
    exact heq ▸ ⟨hid, hzones⟩
  · exact hm id' r' hget

theorem Named.step (s : SpatialServerAPI) {m : MemoryRuntimeStore} (hm : m.Named)
    (c : RuntimeCall) : Named (m.step s c) := by
  cases c with
  | createRuntime req now =>
    rcases h : s.createRuntime m req now with err | ⟨resp, m'⟩
    · simpa only [MemoryRuntimeStore.step, h] using hm
    · obtain ⟨r, zoneCount, zoneSize, hcreate, -⟩ := createRuntime_eq_ok h
      simpa only [MemoryRuntimeStore.step, h] using hm.create hcreate
  | create id zoneCount zoneSize now =>
    rcases h : m.create id zoneCount zoneSize now with err | ⟨r, m'⟩
    · simpa only [MemoryRuntimeStore.step, h] using hm
    · simpa only [MemoryRuntimeStore.step, h] using hm.create h
  | destroyRuntime id =>
    rcases hget : m.get id with _ | r
    · simpa [MemoryRuntimeStore.step, SpatialServerAPI.destroyRuntime, destroy, hget] using hm
    · simp only [MemoryRuntimeStore.step, SpatialServerAPI.destroyRuntime, destroy, hget]
      intro id' r' hget'
      rw [Dict.get_set] at hget'
      split_ifs at hget' with heq
      · cases hget'
        exact heq ▸ hm id r hget
      · exact hm id' r' hget'

/-- In every run of the service a name is among the zones of one runtime only. -/
theorem zone_of_one_runtime (s : SpatialServerAPI) (cs : List RuntimeCall) {id id' : RuntimeID}
    {r r' : RuntimeRecord} (hr : (exec (step s) ∅ cs).get id = some r)
    (hr' : (exec (step s) ∅ cs).get id' = some r') {z : ZoneID} (hz : z ∈ r.zoneIDs)
    (hz' : z ∈ r'.zoneIDs) : id = id' := by
  have hempty : Named ∅ := fun id r h => by simp at h
  have hnamed := exec_keeps Named (fun m c hm => hm.step s c) hempty cs
  rw [(hnamed id r hr).2] at hz
  rw [(hnamed id' r' hr').2] at hz'
  obtain ⟨i, -, rfl⟩ := List.mem_map.mp hz
  obtain ⟨i', -, hname⟩ := List.mem_map.mp hz'
  exact (congrArg Prod.fst (@numberedZoneID_injective (id', i') (id, i) hname)).symm

end MemoryRuntimeStore

/-- Both kinds of names can be told apart and read back, the service answers with the
names that the store has recorded, and in every run of the service a recorded name
belongs to one runtime only. -/
theorem zone_ids_unambiguous :
    (Function.Injective fun p : RuntimeID × ℤ × ℤ => newZoneID p.1 p.2.1 p.2.2) ∧
    (Function.Injective fun p : RuntimeID × ℕ => numberedZoneID p.1 p.2) ∧
    (∀ r r' x y i, newZoneID r x y ≠ numberedZoneID r' i) ∧
    (∀ (s : SpatialServerAPI) m req now resp m', s.createRuntime m req now = .ok (resp, m') →
      ∃ rec, m'.get resp.runtimeID = some rec ∧ rec.zoneIDs = resp.zones ∧
        resp.zones = (List.range rec.zoneCount.toNat).map (numberedZoneID resp.runtimeID)) ∧
    ∀ (s : SpatialServerAPI) (cs : List RuntimeCall) id id' r r' z,
      (exec (MemoryRuntimeStore.step s) ∅ cs).get id = some r →
      (exec (MemoryRuntimeStore.step s) ∅ cs).get id' = some r' →
      z ∈ r.zoneIDs → z ∈ r'.zoneIDs → id = id' := by
  refine ⟨newZoneID_injective, numberedZoneID_injective, newZoneID_ne_numberedZoneID, ?_,
    fun s cs id id' r r' z hr hr' hz hz' =>
      MemoryRuntimeStore.zone_of_one_runtime s cs hr hr' hz hz'⟩
  intro s m req now resp m' h
  obtain ⟨r, zoneCount, zoneSize, hcreate, hid, hzones⟩ := MemoryRuntimeStore.createRuntime_eq_ok h
  obtain ⟨hrid, hrzones, rfl⟩ := MemoryRuntimeStore.create_eq_ok hcreate
  refine ⟨r, ?_, ?_, ?_⟩
  · rw [hid, hrid, Dict.get_set_self]
  · rw [hzones, hrzones, hrid]
  · rw [hzones, hid]

end SpatialServer

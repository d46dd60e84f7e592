import SpatialServer.Transfers

/-!
# What the listeners of a transfer know

Gateways build their routes from what the coordinator tells its listeners. A
completed transfer is told to every listener, and nothing else is told, so a
listener that started from the owners of the initial table and writes down what
it hears has the owners of the present table after every request.
-/
namespace SpatialServer

open Runs

namespace MigrationCoordinator

def owner (m : MigrationCoordinator) (zoneID : String) : Option ServerID :=
  (m.table.get zoneID).map OwnedZone.owner

theorem owner_update (m : MigrationCoordinator) (zoneID z : String) (s : ServerID)
    (st : ZoneStatus) :
    (m.update zoneID s st).owner z = if z = zoneID then some s else m.owner z := by
  simp only [owner, update, Dict.get_set]
  split_ifs <;> rfl

/-- A coordinator with the given table and so many listeners. -/
def withListeners (table : Dict String OwnedZone) (n : ℕ) : MigrationCoordinator :=
  withListener^[n] ⟨table, []⟩

theorem withListeners_eq (table : Dict String OwnedZone) (n : ℕ) :
    withListeners table n = ⟨table, List.range n⟩ := by
  induction n with
  | zero => rfl
  | succ n ih =>
    rw [withListeners, Function.iterate_succ_apply']
    change (withListeners table n).withListener = _
    rw [ih]
    simp [withListener, List.range_succ]

/-- The error a request is answered with. -/
def failure (m : MigrationCoordinator) : TransferRequest → Option Failure
  | .prepare _ z s =>
    match m.prepareTransfer z s with
    | .ok _ => none
    | .error e => some e
  | .complete _ z s =>
    match m.completeTransfer z s with
    | .ok _ => none
    | .error e => some e

end MigrationCoordinator

/-- The coordinator, and what each listener was told, in order. -/
structure Notified where
  coordinator : MigrationCoordinator
  heard : ℕ → List OwnershipNotice

namespace Notified

def start (table : Dict String OwnedZone) (n : ℕ) : Notified :=
  ⟨.withListeners table n, fun _ => []⟩

/-- What a listener has heard once these calls have been made. -/
def tell (t : Notified) (told : List (ℕ × OwnershipNotice)) (l : ℕ) : List OwnershipNotice :=
  t.heard l ++ (told.filter fun call => call.1 = l).map Prod.snd

def step (t : Notified) : TransferRequest → Notified
  | .prepare _ z s =>
    match t.coordinator.prepareTransfer z s with
    | .ok m => { t with coordinator := m }
    | .error _ => t
  | .complete _ z s =>
    match t.coordinator.completeTransfer z s with
    | .ok (m, told) => ⟨m, t.tell told⟩
    | .error _ => t

/-- A map of owners, after writing down what was heard. -/
def replay (owners : String → Option ServerID) (heard : List OwnershipNotice) :
    String → Option ServerID :=
  heard.foldl (fun owners n => Function.update owners n.zoneID (some n.owner)) owners

/-- What a request can do: nothing, if it is refused; take an active zone out of
service; or put a zone in transfer into service for a new owner, and tell
everybody. -/
theorem step_cases (t : Notified) (req : TransferRequest) :
    ((t.coordinator.failure req).isSome ∧ t.step req = t) ∨
    (∃ p z s row, req = .prepare p z s ∧ t.coordinator.failure req = none ∧
      t.coordinator.table.get z = some row ∧ row.status = .active ∧
      t.step req = { t with coordinator := t.coordinator.update z row.owner .transferring }) ∨
    (∃ p z s, req = .complete p z s ∧ t.coordinator.failure req = none ∧
      t.coordinator.status z = some .transferring ∧
      t.step req = ⟨t.coordinator.update z s .active,
        t.tell (t.coordinator.listeners.map fun l => (l, ⟨z, s, .active⟩))⟩) := by
  cases req with
  | prepare p z s =>
    rcases hok : t.coordinator.prepareTransfer z s with e | m
    · exact .inl (by simp [MigrationCoordinator.failure, step, hok])
    · obtain ⟨hactive, row, hrow, rfl⟩ := MigrationCoordinator.prepareTransfer_eq_ok hok
      refine .inr (.inl ⟨p, z, s, row, rfl, by simp [MigrationCoordinator.failure, hok], hrow, ?_,
        by simp [step, hok]⟩)
      simpa [MigrationCoordinator.status, hrow] using hactive
  | complete p z s =>
    rcases hok : t.coordinator.completeTransfer z s with e | ⟨m, told⟩
    · exact .inl (by simp [MigrationCoordinator.failure, step, hok])
    · obtain ⟨hst, rfl, rfl⟩ := MigrationCoordinator.completeTransfer_eq_ok hok
      exact .inr (.inr ⟨p, z, s, rfl, by simp [MigrationCoordinator.failure, hok], hst,
        by simp [step, hok]⟩)

theorem step_of_failure {t : Notified} {req : TransferRequest}
    (h : (t.coordinator.failure req).isSome) : t.step req = t := by
  obtain ⟨-, hstep⟩ | ⟨_, _, _, _, _, hnone, -⟩ | ⟨_, _, _, _, hnone, -⟩ := t.step_cases req
  · exact hstep
  · simp [hnone] at h
  · simp [hnone] at h

theorem owner_step {t : Notified} {req : TransferRequest} {z : String}
    (h : (t.step req).coordinator.owner z ≠ t.coordinator.owner z) :
    ∃ p s, req = .complete p z s ∧ t.coordinator.failure req = none := by
  obtain ⟨-, hstep⟩ | ⟨p, z', s, row, -, -, hrow, -, hstep⟩ | ⟨p, z', s, rfl, hok, -, hstep⟩ :=
    t.step_cases req
  · exact absurd (by rw [hstep]) h
  · -- a preparation writes the owner that is there
    rw [hstep, MigrationCoordinator.owner_update] at h
    split_ifs at h with hz
    · simp [MigrationCoordinator.owner, hz, hrow] at h
    · exact absurd rfl h
  · rw [hstep, MigrationCoordinator.owner_update] at h
    split_ifs at h with hz
    · exact ⟨p, s, by rw [hz], hok⟩
    · exact absurd rfl h

theorem status_step {t : Notified} {req : TransferRequest} {z : String}
    (h : (t.step req).coordinator.status z ≠ t.coordinator.status z) :
    t.coordinator.status z = some .active ∧
        (t.step req).coordinator.status z = some .transferring ∨
      t.coordinator.status z = some .transferring ∧
        (t.step req).coordinator.status z = some .active := by
  obtain ⟨-, hstep⟩ | ⟨p, z', s, row, -, -, hrow, hactive, hstep⟩ |
    ⟨p, z', s, -, -, hst, hstep⟩ := t.step_cases req
  · exact absurd (by rw [hstep]) h
  · rw [hstep] at h ⊢
    rw [MigrationCoordinator.status_update] at h ⊢
    split_ifs at h ⊢ with hz
    · exact .inl ⟨by simp [MigrationCoordinator.status, hz, hrow, hactive], rfl⟩
    · exact absurd rfl h
  · rw [hstep] at h ⊢
    rw [MigrationCoordinator.status_update] at h ⊢
    split_ifs at h ⊢ with hz
    · exact .inr ⟨hz ▸ hst, rfl⟩
    · exact absurd rfl h

/-- Every listener has heard the same, and enough to know the owners. -/
structure Informed (owners : String → Option ServerID) (n : ℕ) (t : Notified) : Prop where
  listeners : t.coordinator.listeners = List.range n
  knows : ∃ heard, (∀ l < n, t.heard l = heard) ∧ replay owners heard = t.coordinator.owner

theorem informed_start (table : Dict String OwnedZone) (n : ℕ) :
    Informed (MigrationCoordinator.owner ⟨table, []⟩) n (start table n) := by
  refine ⟨by rw [start, MigrationCoordinator.withListeners_eq], [], fun _ _ => rfl, ?_⟩
  rw [start, MigrationCoordinator.withListeners_eq]
  rfl

/-- A listener hears a call that is made to all of them once. -/
theorem tell_range (t : Notified) {n l : ℕ} (hl : l < n) (notice : OwnershipNotice) :
    t.tell ((List.range n).map fun l => (l, notice)) l = t.heard l ++ [notice] := by
  have honce : (List.range n).filter (fun k => k = l) = [l] := by
    rw [List.filter_eq, List.count_eq_one_of_mem List.nodup_range (List.mem_range.mpr hl)]
    rfl
  simp only [tell, List.filter_map, Function.comp_def, honce, List.map_cons, List.map_nil]

theorem Informed.step {owners : String → Option ServerID} {n : ℕ} {t : Notified}
    (h : Informed owners n t) (req : TransferRequest) : Informed owners n (t.step req) := by
  obtain ⟨heard, hheard, hknows⟩ := h.knows
  obtain ⟨-, hstep⟩ | ⟨p, z, s, row, -, -, hrow, -, hstep⟩ | ⟨p, z, s, -, -, -, hstep⟩ :=
    t.step_cases req
  · rw [hstep]
    exact h
  · rw [hstep]
    refine ⟨h.listeners, heard, hheard, hknows.trans (funext fun z' => ?_)⟩
    rw [MigrationCoordinator.owner_update]
    split_ifs with hz
    · rw [hz, MigrationCoordinator.owner, hrow]
      rfl
    · rfl
  · rw [hstep, h.listeners]
    refine ⟨h.listeners, heard ++ [⟨z, s, .active⟩], fun l hl => ?_, ?_⟩
    · exact (tell_range t hl _).trans (by rw [hheard l hl])
    · funext z'
      rw [replay, List.foldl_append, MigrationCoordinator.owner_update, ← hknows]
      exact Function.update_apply ..

/-- Whatever is requested, a refused request changes no row and is told to
nobody; owners change only by a completed transfer, and the status of a zone only
goes from active to transferring and back; and all the listeners have heard the
same, which makes the owners of the initial table those of the present one. -/
theorem notices_replay_to_table (table : Dict String OwnedZone) (n : ℕ)
    (reqs : List TransferRequest) :
    let t := exec step (start table n) reqs
    (∀ req, (t.coordinator.failure req).isSome →
      (∀ z, (t.step req).coordinator.table.get z = t.coordinator.table.get z) ∧
        ∀ l, (t.step req).heard l = t.heard l) ∧
      (∀ req z, (t.step req).coordinator.owner z ≠ t.coordinator.owner z →
        ∃ p s, req = .complete p z s ∧ t.coordinator.failure req = none) ∧
      (∀ req z, (t.step req).coordinator.status z ≠ t.coordinator.status z →
        t.coordinator.status z = some .active ∧
            (t.step req).coordinator.status z = some .transferring ∨
          t.coordinator.status z = some .transferring ∧
            (t.step req).coordinator.status z = some .active) ∧
      (∀ l < n, replay (MigrationCoordinator.owner ⟨table, []⟩) (t.heard l) =
        t.coordinator.owner) ∧
      ∀ l < n, ∀ k < n, t.heard l = t.heard k := by
  intro t
  have hinformed : Informed (MigrationCoordinator.owner ⟨table, []⟩) n t :=
    exec_keeps (Informed _ n) (fun t req h => h.step req) (informed_start table n) reqs
  obtain ⟨heard, hheard, hknows⟩ := hinformed.knows
  refine ⟨fun req hfail => ?_, fun req z howner => owner_step howner,
    fun req z hstatus => status_step hstatus, fun l hl => ?_,
    fun l hl k hk => (hheard l hl).trans (hheard k hk).symm⟩
  · rw [step_of_failure hfail]
    exact ⟨fun _ => rfl, fun _ => rfl⟩
  · rw [hheard l hl]
    exact hknows

end Notified

end SpatialServer

import SpatialServer.Runs
import SpatialServer.Tables

/-!
# Two-phase transfer of a zone

A transfer is prepared, which takes the zone out of service, and completed,
which gives it to a new owner. The coordinator keeps the status between the two
requests and not the target, so a completion is accepted for any target. The
two phases agree where the parties see to it: a party completes only what it
prepared itself, once, and with the target it prepared. That this local rule
is enough rests on the status, which lets one preparation at a time succeed.

A request is taken as a whole here. The coordinator has no lock of its own: it reads
the status and writes it in two accesses to a plain map, so that callers on several
goroutines have to keep its requests apart themselves.
-/
namespace SpatialServer

open Runs

def ZoneStatus.text : ZoneStatus → String
  | .unowned => "unowned"
  | .active => "active"
  | .transferring => "transferring"
  | .orphan => "orphan"

structure OwnedZone where
  owner : ServerID
  status : ZoneStatus
  deriving DecidableEq, Repr

/-- What a listener is told about a zone. -/
structure OwnershipNotice where
  zoneID : String
  owner : ServerID
  status : ZoneStatus
  deriving DecidableEq, Repr

/-- Listeners are known by their place of registration. -/
structure MigrationCoordinator where
  table : Dict String OwnedZone
  listeners : List ℕ

namespace MigrationCoordinator

def new : MigrationCoordinator := ⟨∅, []⟩

def withListener (m : MigrationCoordinator) : MigrationCoordinator :=
  { m with listeners := m.listeners ++ [m.listeners.length] }

def update (m : MigrationCoordinator) (zoneID : String) (owner : ServerID) (status : ZoneStatus) :
    MigrationCoordinator :=
  { m with table := m.table.set zoneID ⟨owner, status⟩ }

/-- The target is not looked at. The request is accepted exactly when there is
no error. -/
def prepareTransfer (m : MigrationCoordinator) (zoneID : String) (_target : ServerID) :
    Except Failure MigrationCoordinator :=
  match m.table.get zoneID with
  | none => .error (Err.notFound.wrap ("zone " ++ zoneID))
  | some row =>
    if row.status ≠ .active then
      .error (Err.conflict.wrap ("zone " ++ zoneID ++ " status " ++ row.status.text))
    else .ok (m.update zoneID row.owner .transferring)

/-- The coordinator after the request, and what its listeners are told. -/
def completeTransfer (m : MigrationCoordinator) (zoneID : String) (target : ServerID) :
    Except Failure (MigrationCoordinator × List (ℕ × OwnershipNotice)) :=
  match m.table.get zoneID with
  | none => .error (Err.notFound.wrap ("zone " ++ zoneID))
  | some row =>
    if row.status ≠ .transferring then
      .error (Err.invalidArg.wrap ("zone " ++ zoneID ++ " status " ++ row.status.text))
    else .ok (m.update zoneID target .active,
      m.listeners.map fun l => (l, ⟨zoneID, target, .active⟩))

def status (m : MigrationCoordinator) (zoneID : String) : Option ZoneStatus :=
  (m.table.get zoneID).map OwnedZone.status

theorem status_update (m : MigrationCoordinator) (zoneID z : String) (owner : ServerID)
    (st : ZoneStatus) :
    (m.update zoneID owner st).status z = if z = zoneID then some st else m.status z := by
  simp only [status, update, Dict.get_set]
  split_ifs <;> rfl

theorem prepareTransfer_eq_ok {m m' : MigrationCoordinator} {z : String} {s : ServerID}
    (h : m.prepareTransfer z s = .ok m') :
    m.status z = some .active ∧
      ∃ row, m.table.get z = some row ∧ m' = m.update z row.owner .transferring := by
  unfold prepareTransfer at h
  split at h
  · cases h
  · next row hrow =>
    split_ifs at h with hst
    cases h
    exact ⟨by simp [status, hrow, not_not.mp hst], row, hrow, rfl⟩

theorem completeTransfer_eq_ok {m m' : MigrationCoordinator} {z : String} {s : ServerID}
    {told : List (ℕ × OwnershipNotice)} (h : m.completeTransfer z s = .ok (m', told)) :
    m.status z = some .transferring ∧ m' = m.update z s .active ∧
      told = m.listeners.map fun l => (l, ⟨z, s, .active⟩) := by
  unfold completeTransfer at h
  split at h
  · cases h
  · next row hrow =>
    split_ifs at h with hst
    cases h
    exact ⟨by simp [status, hrow, not_not.mp hst], rfl, rfl⟩

end MigrationCoordinator

/-- A request, and who makes it. -/
inductive TransferRequest where
  | prepare (party : ℕ) (zoneID : String) (target : ServerID)
  | complete (party : ℕ) (zoneID : String) (target : ServerID)
  deriving DecidableEq, Repr

/-- The coordinator, the target of the latest successful preparation of every
zone, and the preparations each party has not completed yet. -/
structure Transfers where
  coordinator : MigrationCoordinator
  prepared : String → Option ServerID
  pending : ℕ → String → Option ServerID

namespace Transfers

def start (m : MigrationCoordinator) : Transfers := ⟨m, fun _ => none, fun _ _ => none⟩

def setPending (t : Transfers) (p : ℕ) (z : String) (s : Option ServerID) :
    ℕ → String → Option ServerID :=
  fun p' z' => if p' = p ∧ z' = z then s else t.pending p' z'

/-- A refused request changes nothing. -/
def step (t : Transfers) : TransferRequest → Transfers
  | .prepare p z s =>
    match t.coordinator.prepareTransfer z s with
    | .ok m => ⟨m, Function.update t.prepared z (some s), t.setPending p z (some s)⟩
    | .error _ => t
  | .complete p z s =>
    match t.coordinator.completeTransfer z s with
    | .ok (m, _) => ⟨m, t.prepared, t.setPending p z none⟩
    | .error _ => t

/-- A completion that finds the zone in transfer comes from a party that prepared
this transfer itself and did not complete it yet. -/
def CompletesOwn (t : Transfers) : TransferRequest → Prop
  | .prepare _ _ _ => True
  | .complete p z s => t.coordinator.status z = some .transferring → t.pending p z = some s

instance (t : Transfers) (req : TransferRequest) : Decidable (t.CompletesOwn req) :=
  match req with
  | .prepare _ _ _ => isTrue trivial
  | .complete p z s => inferInstanceAs (Decidable
      (t.coordinator.status z = some .transferring → t.pending p z = some s))

/-- A pending preparation is the latest one of a zone in transfer, and the only
one. -/
structure Agreed (t : Transfers) : Prop where
  latest : ∀ p z s, t.pending p z = some s → t.prepared z = some s
  held : ∀ p z s, t.pending p z = some s → t.coordinator.status z = some .transferring
  unique : ∀ p q z s s', t.pending p z = some s → t.pending q z = some s' → p = q

namespace Agreed

variable {t : Transfers}

theorem start (m : MigrationCoordinator) : Agreed (start m) := by
  constructor <;> simp [Transfers.start]

/-- Nobody has a preparation pending of a zone that is in service. -/
theorem pending_of_active (h : Agreed t) {z : String} (hst : t.coordinator.status z = some .active)
    (p : ℕ) : t.pending p z = none := by
  cases hp : t.pending p z with
  | none => rfl
  | some s =>
    have hheld := h.held p z s hp
    simp [hst] at hheld

theorem prepare (h : Agreed t) (p : ℕ) (z : String) (s : ServerID) :
    Agreed (t.step (.prepare p z s)) := by
  simp only [step]
  split
  · next m hm =>
    obtain ⟨hactive, -, -, rfl⟩ := MigrationCoordinator.prepareTransfer_eq_ok hm
    have hnone := h.pending_of_active hactive
    -- the only pending preparation of the zone is the new one
    have hnew : ∀ q z' s', t.setPending p z (some s) q z' = some s' →
        z' = z ∧ q = p ∧ s' = s ∨ z' ≠ z ∧ t.pending q z' = some s' := by
      intro q z' s' hq
      unfold setPending at hq
      split_ifs at hq with hpz
      · exact .inl ⟨hpz.2, hpz.1, (Option.some.inj hq).symm⟩
      · refine .inr ⟨?_, hq⟩
        rintro rfl
        simp [hnone q] at hq
    constructor
    case latest =>
      intro q z' s' hq
      obtain ⟨rfl, -, rfl⟩ | ⟨hz, hold⟩ := hnew q z' s' hq
      · simp
      · simpa [hz] using h.latest q z' s' hold
    case held =>
      intro q z' s' hq
      rw [MigrationCoordinator.status_update]
      obtain ⟨rfl, -, -⟩ | ⟨hz, hold⟩ := hnew q z' s' hq
      · simp
      · simpa [hz] using h.held q z' s' hold
    case unique =>
      intro q q' z' s' s'' hq hq'
      obtain ⟨rfl, rfl, -⟩ | ⟨hz, hold⟩ := hnew q z' s' hq
      · obtain ⟨-, hp, -⟩ | ⟨hz, -⟩ := hnew q' z' s'' hq'
        · exact hp.symm
        · exact absurd rfl hz
      · obtain ⟨hz', -, -⟩ | ⟨-, hold'⟩ := hnew q' z' s'' hq'
        · exact absurd hz' hz
        · exact h.unique q q' z' s' s'' hold hold'
  · exact h

theorem complete (h : Agreed t) {p : ℕ} {z : String} {s : ServerID}
    (hown : t.CompletesOwn (.complete p z s)) : Agreed (t.step (.complete p z s)) := by
  simp only [step]
  split
  · next m told hm =>
    obtain ⟨hst, rfl, -⟩ := MigrationCoordinator.completeTransfer_eq_ok hm
    have hpending : t.pending p z = some s := hown hst
    -- nobody else was waiting for this zone
    have hother : ∀ q z' s', t.setPending p z none q z' = some s' →
        z' ≠ z ∧ t.pending q z' = some s' := by
      intro q z' s' hq
      unfold setPending at hq
      split_ifs at hq with hpz
      refine ⟨?_, hq⟩
      rintro rfl
      exact hpz ⟨h.unique q p z' s' s hq hpending, rfl⟩
    constructor
    case latest =>
      intro q z' s' hq
      exact h.latest q z' s' (hother q z' s' hq).2
    case held =>
      intro q z' s' hq
      obtain ⟨hz, hold⟩ := hother q z' s' hq
      rw [MigrationCoordinator.status_update, if_neg hz]
      exact h.held q z' s' hold
    case unique =>
      intro q q' z' s' s'' hq hq'
      exact h.unique q q' z' s' s'' (hother q z' s' hq).2 (hother q' z' s'' hq').2
  · exact h

end Agreed

theorem agreed_exec (m : MigrationCoordinator) {reqs : List TransferRequest}
    (h : Along step CompletesOwn (start m) reqs) : Agreed (exec step (start m) reqs) := by
  refine exec_invariant Agreed (fun t req ht hreq => ?_) (.start m) h
  cases req with
  | prepare p z s => exact ht.prepare p z s
  | complete p z s => exact ht.complete hreq

/-- If every party completes only what it prepared itself, a completion succeeds
only for the target of the zone's latest successful preparation, and a zone in
transfer stays as it is or comes to be owned by that target. -/
theorem completes_as_prepared (m : MigrationCoordinator) (reqs : List TransferRequest)
    (req : TransferRequest) (h : Along step CompletesOwn (start m) (reqs ++ [req])) :
    let t := exec step (start m) reqs
    (∀ p z s m' told, req = .complete p z s →
      t.coordinator.completeTransfer z s = .ok (m', told) → t.prepared z = some s) ∧
    ∀ z row, t.coordinator.table.get z = some row → row.status = .transferring →
      (t.step req).coordinator.table.get z = some row ∨
        ∃ s, t.prepared z = some s ∧
          (t.step req).coordinator.table.get z = some ⟨s, .active⟩ := by
  intro t
  obtain ⟨hreqs, hreq, -⟩ := (along_append ..).mp h
  have ht : Agreed t := agreed_exec m hreqs
  have hagree : ∀ p z s m' told, req = .complete p z s →
      t.coordinator.completeTransfer z s = .ok (m', told) → t.prepared z = some s := by
    rintro p z s m' told rfl hok
    exact ht.latest p z s (hreq (MigrationCoordinator.completeTransfer_eq_ok hok).1)
  refine ⟨hagree, fun z row hrow hst => ?_⟩
  cases req with
  | prepare p z' s =>
    left
    simp only [step]
    split
    · next m' hm =>
      obtain ⟨hactive, -, -, rfl⟩ := MigrationCoordinator.prepareTransfer_eq_ok hm
      have hz : z ≠ z' := by
        rintro rfl
        simp [MigrationCoordinator.status, hrow, hst] at hactive
      simpa [MigrationCoordinator.update, hz] using hrow
    · exact hrow
  | complete p z' s =>
    simp only [step]
    split
    · next m' told hm =>
      obtain ⟨-, rfl, -⟩ := MigrationCoordinator.completeTransfer_eq_ok hm
      by_cases hz : z = z'
      · subst z'
        exact .inr ⟨s, hagree p z s _ told rfl hm, by simp [MigrationCoordinator.update]⟩
      · exact .inl (by simpa [MigrationCoordinator.update, hz] using hrow)
    · exact .inl hrow

/-- Two operators move one zone; the second one is refused at first. -/
theorem completes_as_prepared_twice :
    let m : MigrationCoordinator := ⟨Dict.set ∅ "z1" ⟨"gs-A", .active⟩, [0]⟩
    let t := exec step (start m) [.prepare 0 "z1" "gs-B", .prepare 1 "z1" "gs-C",
      .complete 0 "z1" "gs-B", .prepare 1 "z1" "gs-C"]
    t.prepared "z1" = some "gs-C" ∧
      (t.step (.complete 1 "z1" "gs-C")).coordinator.table.get "z1" = some ⟨"gs-C", .active⟩ := by
  intro m t
  have hrun : Along step CompletesOwn (start m) ([.prepare 0 "z1" "gs-B", .prepare 1 "z1" "gs-C",
      .complete 0 "z1" "gs-B", .prepare 1 "z1" "gs-C"] ++ [.complete 1 "z1" "gs-C"]) := by
    decide +kernel
  exact ⟨(completes_as_prepared m _ _ hrun).1 1 "z1" "gs-C" _ _ rfl rfl, by decide +kernel⟩

/-- One operator prepares the zone for a server, another one completes the
transfer for a different server, and the coordinator accepts. -/
theorem completed_for_another_target :
    let m : MigrationCoordinator := ⟨Dict.set ∅ "z1" ⟨"gs-A", .active⟩, []⟩
    let t := exec step (start m) [.prepare 0 "z1" "gs-B", .prepare 1 "z1" "gs-C"]
    t.prepared "z1" = some "gs-B" ∧
      (t.coordinator.completeTransfer "z1" "gs-C").toOption.isSome ∧
      (t.step (.complete 1 "z1" "gs-C")).coordinator.table.get "z1" = some ⟨"gs-C", .active⟩ := by
  decide +kernel

end Transfers

end SpatialServer

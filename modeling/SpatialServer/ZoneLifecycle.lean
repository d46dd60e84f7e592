import SpatialServer.Transfers

/-!
# The lifecycle of a zone

A zone is claimed, transferred, orphaned and released, and a table says which
status may follow which. The operations guard themselves in three ways: two ask
the table, two compare the status, and marking a zone as an orphan asks nothing.
The table allows the way from transferring to active, which is there for the
completion of a transfer, and a claim goes through it just as well. The lifecycle
is therefore kept where the callers see to both: only a zone in transfer is given
up as an orphan, and only its owner claims one.
-/
namespace SpatialServer

open Runs

def ZoneStatus.transitions : ZoneStatus → List ZoneStatus
  | .unowned => [.active]
  | .active => [.transferring, .unowned]
  | .transferring => [.active, .orphan]
  | .orphan => [.active, .unowned]

def ZoneStatus.validTransition (s next : ZoneStatus) : Bool :=
  s.transitions.contains next

/-- A zone with its place in the lifecycle. -/
structure TrackedZone extends Zone where
  status : ZoneStatus
  serverID : ServerID
  deriving DecidableEq, Repr

namespace TrackedZone

def new (id : ZoneID) (runtimeID : RuntimeID) (gridX gridY : ℤ) (size : ℚ) : TrackedZone :=
  ⟨⟨id, runtimeID, ⟨gridX, gridY⟩, size⟩, .unowned, ""⟩

def refusal (z : TrackedZone) (what : String) (e : Err) : Failure :=
  ⟨what ++ " zone " ++ z.id ++ ": " ++ e.text ++ " (current=" ++ z.status.text ++ ")", e⟩

/-! An operation returns its error, if any, and leaves the zone as given. -/

def claim (z : TrackedZone) (serverID : ServerID) : Option Failure × TrackedZone :=
  if !z.status.validTransition .active then (some (z.refusal "claim" .conflict), z)
  else (none, { z with status := .active, serverID := serverID })

def release (z : TrackedZone) : Option Failure × TrackedZone :=
  if z.status ≠ .active ∧ z.status ≠ .orphan then (some (z.refusal "release" .invalidArg), z)
  else (none, { z with status := .unowned, serverID := "" })

def beginTransfer (z : TrackedZone) : Option Failure × TrackedZone :=
  if !z.status.validTransition .transferring then (some (z.refusal "transfer" .conflict), z)
  else (none, { z with status := .transferring })

def completeTransfer (z : TrackedZone) (serverID : ServerID) : Option Failure × TrackedZone :=
  if z.status ≠ .transferring then (some (z.refusal "complete transfer" .invalidArg), z)
  else (none, { z with status := .active, serverID := serverID })

def markOrphan (z : TrackedZone) : TrackedZone := { z with status := .orphan }

inductive LifecycleCall where
  | claim (serverID : ServerID)
  | release
  | beginTransfer
  | completeTransfer (serverID : ServerID)
  | markOrphan
  deriving DecidableEq, Repr

def call (z : TrackedZone) : LifecycleCall → Option Failure × TrackedZone
  | .claim s => z.claim s
  | .release => z.release
  | .beginTransfer => z.beginTransfer
  | .completeTransfer s => z.completeTransfer s
  | .markOrphan => (none, z.markOrphan)

def step (z : TrackedZone) (c : LifecycleCall) : TrackedZone := (z.call c).2

/-- A server that is named has a name. -/
def LifecycleCall.Named : LifecycleCall → Prop
  | .claim s | .completeTransfer s => s ≠ ""
  | _ => True

/-- The zone has a server exactly if it is not unowned. -/
def OwnerTracked (z : TrackedZone) : Prop := z.serverID = "" ↔ z.status = .unowned

/-- A refused call changes nothing, the status changes as the table allows, the
server is known, and a zone in transfer gets another server only by the
completion of the transfer. -/
structure Safe (z : TrackedZone) (c : LifecycleCall) : Prop where
  refused : (z.call c).1.isSome → z.step c = z
  transition : (z.step c).status ≠ z.status → z.status.validTransition (z.step c).status
  tracked : (z.step c).OwnerTracked
  transfer : z.status = .transferring → (z.step c).serverID ≠ z.serverID →
    ∃ s, c = .completeTransfer s

/-- A zone is given up in a transfer, or has been, and a claim during a transfer
is the owner's. -/
def Guarded (z : TrackedZone) : LifecycleCall → Prop
  | .markOrphan => z.status = .transferring ∨ z.status = .orphan
  | .claim s => z.status = .transferring → s = z.serverID
  | _ => True

instance (z : TrackedZone) (c : LifecycleCall) : Decidable (z.Guarded c) := by
  cases c <;> unfold Guarded <;> infer_instance

/-- A call that leaves the zone alone breaks nothing. -/
theorem OwnerTracked.safe_of_step_eq {z : TrackedZone} (h : z.OwnerTracked) {c : LifecycleCall}
    (hstep : z.step c = z) : z.Safe c where
  refused := fun _ => hstep
  transition := fun hne => absurd (by rw [hstep]) hne
  tracked := by rw [hstep]; exact h
  transfer := fun _ hne => absurd (by rw [hstep]) hne

/-- A call that succeeds is safe if its change of status is in the table, it
leaves the server known and, in a transfer, where it is. -/
theorem safe_of_call_eq {z z' : TrackedZone} {c : LifecycleCall} (hcall : z.call c = (none, z'))
    (htransition : z.status.validTransition z'.status) (htracked : z'.OwnerTracked)
    (htransfer : z.status = .transferring → z'.serverID ≠ z.serverID →
      ∃ s, c = .completeTransfer s) : z.Safe c := by
  have hstep : z.step c = z' := by rw [step, hcall]
  refine ⟨?_, fun _ => ?_, ?_, ?_⟩
  · simp [hcall]
  all_goals rw [hstep]; assumption

section Calls

variable {z : TrackedZone} (h : z.OwnerTracked)
include h

theorem safe_claim_iff {s : ServerID} (hs : s ≠ "") :
    z.Safe (.claim s) ↔ (z.status = .transferring → s = z.serverID) := by
  by_cases hactive : z.status = .active
  · have hstep : z.step (.claim s) = z := by
      simp [step, call, claim, hactive, ZoneStatus.validTransition, ZoneStatus.transitions]
    exact iff_of_true (h.safe_of_step_eq hstep) (by simp [hactive])
  · have hvalid : z.status.validTransition .active := by
      cases hst : z.status <;> first | rfl | exact absurd hst hactive
    have hcall : z.call (.claim s) = (none, { z with status := .active, serverID := s }) := by
      simp [call, claim, hvalid]
    constructor
    · -- the table lets the claim through, and the server changes
      intro hsafe htransferring
      by_contra hne
      obtain ⟨_, hc⟩ := hsafe.transfer htransferring (by rw [step, hcall]; exact hne)
      cases hc
    · intro howner
      exact safe_of_call_eq hcall hvalid (by simpa [OwnerTracked] using hs)
        fun htransferring hne => absurd (howner htransferring) hne

theorem safe_release : z.Safe .release := by
  by_cases hst : z.status ≠ .active ∧ z.status ≠ .orphan
  · exact h.safe_of_step_eq (by rw [step, call, release, if_pos hst])
  · refine safe_of_call_eq (if_neg hst) ?_ (by simp [OwnerTracked]) ?_
    · cases hstatus : z.status <;> simp [hstatus] at hst <;> rfl
    · intro htransferring
      simp [htransferring] at hst

theorem safe_beginTransfer : z.Safe .beginTransfer := by
  by_cases hst : z.status = .active
  · have hcall : z.call .beginTransfer = (none, { z with status := .transferring }) := by
      simp [call, beginTransfer, hst, ZoneStatus.validTransition, ZoneStatus.transitions]
    refine safe_of_call_eq hcall (by rw [hst]; rfl) ?_ fun _ hne => absurd rfl hne
    simpa [OwnerTracked, hst] using h
  · refine h.safe_of_step_eq ?_
    cases hstatus : z.status <;> first
      | exact absurd hstatus hst
      | simp [step, call, beginTransfer, hstatus, ZoneStatus.validTransition,
          ZoneStatus.transitions]

theorem safe_completeTransfer {s : ServerID} (hs : s ≠ "") : z.Safe (.completeTransfer s) := by
  by_cases hst : z.status ≠ .transferring
  · exact h.safe_of_step_eq (by rw [step, call, completeTransfer, if_pos hst])
  · refine safe_of_call_eq (if_neg hst) ?_ (by simpa [OwnerTracked] using hs) fun _ _ => ⟨s, rfl⟩
    rw [not_not.mp hst]
    rfl

theorem safe_markOrphan_iff :
    z.Safe .markOrphan ↔ z.status = .transferring ∨ z.status = .orphan := by
  constructor
  · intro hsafe
    cases hst : z.status with
    | unowned | active =>
      have hvalid := hsafe.transition (by simp [step, call, markOrphan, hst])
      simp [step, call, markOrphan, hst, ZoneStatus.validTransition,
        ZoneStatus.transitions] at hvalid
    | transferring => exact .inl rfl
    | orphan => exact .inr rfl
  · rintro (hst | hst)
    · refine safe_of_call_eq rfl (by rw [hst]; rfl) ?_ fun _ hne => absurd rfl hne
      simpa [OwnerTracked, markOrphan, hst] using h
    · refine h.safe_of_step_eq ?_
      simp [step, call, markOrphan, ← hst]

end Calls

theorem safe_iff_guarded {z : TrackedZone} (h : z.OwnerTracked) {c : LifecycleCall}
    (hnamed : c.Named) : z.Safe c ↔ z.Guarded c := by
  cases c with
  | claim s => exact safe_claim_iff h hnamed
  | release => exact iff_of_true (safe_release h) trivial
  | beginTransfer => exact iff_of_true (safe_beginTransfer h) trivial
  | completeTransfer s => exact iff_of_true (safe_completeTransfer h hnamed) trivial
  | markOrphan => exact safe_markOrphan_iff h

/-- The lifecycle of a zone is kept throughout a run if and only if every zone
marked as an orphan was in transfer or an orphan, and every claim of a zone in
transfer was made for its owner. -/
theorem lifecycle_safe_iff (id : ZoneID) (runtimeID : RuntimeID) (gridX gridY : ℤ) (size : ℚ)
    (calls : List LifecycleCall) (hnamed : ∀ c ∈ calls, c.Named) :
    Along step Safe (new id runtimeID gridX gridY size) calls ↔
      Along step Guarded (new id runtimeID gridX gridY size) calls := by
  have hnew : (new id runtimeID gridX gridY size).OwnerTracked := iff_of_true rfl rfl
  have hcalls : Along step (fun _ c => c.Named) (new id runtimeID gridX gridY size) calls :=
    .of_forall_mem fun _ => hnamed
  exact along_congr OwnerTracked (fun _ _ hz hc => safe_iff_guarded hz hc)
    (fun _ _ _ _ hsafe => hsafe.tracked) hnew hcalls

/-- A zone that is claimed, transferred, given up in a second transfer, claimed
by another server and released. -/
theorem lifecycle_safe_through_orphan :
    Along step Safe (new "z1" "r1" 0 0 100) [.claim "gs-1", .beginTransfer,
      .completeTransfer "gs-2", .beginTransfer, .markOrphan, .claim "gs-3", .release] := by
  refine (lifecycle_safe_iff "z1" "r1" 0 0 100 _ ?_).mpr (by decide)
  simp [LifecycleCall.Named]

/-- A new zone can be made an orphan, which has no server; and a zone in transfer
can be claimed for another server. -/
theorem lifecycle_unsafe_calls :
    let orphan := (new "z1" "r1" 0 0 100).step .markOrphan
    let transferring := exec step (new "z1" "r1" 0 0 100) [.claim "gs-1", .beginTransfer]
    ZoneStatus.validTransition .unowned orphan.status = false ∧ orphan.serverID = "" ∧
      orphan.status = .orphan ∧ transferring.status = .transferring ∧
      transferring.serverID = "gs-1" ∧ transferring.claim "gs-2" =
        (none, { transferring with status := .active, serverID := "gs-2" }) := by
  decide

end TrackedZone

end SpatialServer

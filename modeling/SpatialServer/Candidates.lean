import SpatialServer.Registry

/-!
# Who is a candidate

A node is chosen for a zone while its status is active. A heartbeat or a report of
load sets that status and a sweep takes it away. A registration is meant not to set
it: the node is to be a candidate from its first heartbeat on. But the registry keeps
the descriptor it is given, with the status the caller wrote into it.

Beside the registry it is recorded here who was heard of since being registered and
was not marked since. A sweep that runs beside other calls marks its nodes one at a
time; such a mark is a call of its own.
-/
namespace SpatialServer

open Runs

namespace Directory

/-- The descriptor is kept as it is given, apart from the time. -/
def register (d : Directory) (info : NodeDescriptor) (now : Time) : Except Failure Directory :=
  match d.svr.get info.nodeID with
  | some _ => .error (Err.conflict.wrap ("node " ++ info.nodeID))
  | none => .ok { d with svr := d.svr.set info.nodeID ⟨info, now⟩ }

def heartbeat (d : Directory) (id : ServerID) (now : Time) : Except Failure Directory :=
  match d.svr.get id with
  | none => .error (Err.notFound.wrap ("node " ++ id))
  | some s => .ok { d with
      svr := d.svr.set id { s with lastHeartbeat := now, status := .active } }

def updateLoad (d : Directory) (id : ServerID) (load : NodeLoad) (now : Time) :
    Except Failure Directory :=
  match d.svr.get id with
  | none => .error (Err.notFound.wrap ("node " ++ id))
  | some s => .ok { d with
      svr := d.svr.set id { s with load := load, lastHeartbeat := now, status := .active } }

def remove (d : Directory) (id : ServerID) : Directory := { d with svr := d.svr.del id }

/-- A call that is refused leaves the maps as they were. -/
def orSame (d : Directory) : Except Failure Directory → Directory
  | .ok d' => d'
  | .error _ => d

end Directory

/-- A foreign function that changes the owners of zones only. -/
abbrev ZoneReassign := Dict String ServerID → String → ServerID → Dict String ServerID

def ZoneReassign.lift (f : ZoneReassign) : ReassignFunc :=
  fun d zoneID target => { d with zones := f d.zones zoneID target }

inductive RegistryCall where
  | register (info : NodeDescriptor) (now : Time)
  | heartbeat (id : ServerID) (now : Time)
  | updateLoad (id : ServerID) (load : NodeLoad) (now : Time)
  | remove (id : ServerID)
  | sweep (cfg : SweeperConfig) (reassign : Option ZoneReassign) (inp : SweepInput)
  /-- A sweep in progress marks a node that it found overdue some time before. -/
  | mark (id : ServerID)

namespace Directory

def step (d : Directory) : RegistryCall → Directory
  | .register info now => d.orSame (d.register info now)
  | .heartbeat id now => d.orSame (d.heartbeat id now)
  | .updateLoad id load now => d.orSame (d.updateLoad id load now)
  | .remove id => d.remove id
  | .sweep cfg reassign inp => (Sweeper.sweep cfg (reassign.map ZoneReassign.lift) inp d).dir
  | .mark id => d.markShutdown id

/-- Who has been heard of since being registered and was not marked since, once the
call is made. -/
def heard (d : Directory) (beating : ServerID → Bool) : RegistryCall → ServerID → Bool
  | .register info _ =>
    if (d.svr.get info.nodeID).isSome then beating else Function.update beating info.nodeID false
  | .heartbeat id _ | .updateLoad id _ _ =>
    if (d.svr.get id).isSome then Function.update beating id true else beating
  | .remove id | .mark id => Function.update beating id false
  | .sweep cfg _ inp => fun id => beating id && decide (id ∉ Sweeper.overdue cfg inp d)

/-- The call does not register a new node that could be chosen at once. -/
def RegistersInactive (d : Directory) : RegistryCall → Prop
  | .register info _ => d.svr.get info.nodeID = none → info.canAccept = false
  | _ => True

instance (d : Directory) (c : RegistryCall) : Decidable (d.RegistersInactive c) := by
  cases c <;> unfold RegistersInactive <;> infer_instance

end Directory

/-- The registry and who has been heard of. -/
structure HeardDirectory where
  dir : Directory
  beating : ServerID → Bool

namespace HeardDirectory

def start (zones : Dict String ServerID) : HeardDirectory := ⟨⟨∅, zones⟩, fun _ => false⟩

def step (w : HeardDirectory) (c : RegistryCall) : HeardDirectory :=
  ⟨w.dir.step c, w.dir.heard w.beating c⟩

end HeardDirectory

/-! ## What a call does to one node -/

namespace Sweeper

variable (reassign : Option ZoneReassign) (inp : SweepInput)

theorem svr_reassignOrphan (order : String → List ServerID) (st : SweepState) (z : String) :
    (reassignOrphan (reassign.map ZoneReassign.lift) order st z).dir.svr = st.dir.svr := by
  unfold reassignOrphan
  cases st.dir.leastLoaded (order z) <;> cases reassign <;> rfl

/-- Of the nodes a turn of the sweep only marks the dead one. -/
theorem svr_sweepNode (st : SweepState) (id : ServerID) :
    (sweepNode (reassign.map ZoneReassign.lift) inp st id).dir.svr =
      (st.dir.markShutdown id).svr := by
  refine exec_keeps (fun st' : SweepState => st'.dir.svr = (st.dir.markShutdown id).svr)
    (fun st' z h => ?_) rfl _
  rw [svr_reassignOrphan, h]

theorem get_markShutdown (d : Directory) (id a : ServerID) : (d.markShutdown id).svr.get a =
    if a = id then (d.svr.get id).map fun n => { n with status := .shutdown } else d.svr.get a := by
  unfold Directory.markShutdown
  rcases hget : d.svr.get id with _ | n
  · by_cases ha : a = id <;> simp [ha, hget]
  · simp [Dict.get_set]

/-- A sweep marks the overdue nodes. -/
theorem get_sweep (cfg : SweeperConfig) (d : Directory) (a : ServerID) :
    (sweep cfg (reassign.map ZoneReassign.lift) inp d).dir.svr.get a =
      if a ∈ overdue cfg inp d then (d.svr.get a).map fun n => { n with status := .shutdown }
      else d.svr.get a := by
  have hrun : ∀ (ids : List ServerID) (st : SweepState),
      (exec (sweepNode (reassign.map ZoneReassign.lift) inp) st ids).dir.svr.get a =
        if a ∈ ids then (st.dir.svr.get a).map fun n => { n with status := .shutdown }
        else st.dir.svr.get a := by
    intro ids
    induction ids with
    | nil => simp
    | cons id ids ih =>
      intro st
      rw [exec_cons, ih, svr_sweepNode, get_markShutdown]
      by_cases ha : a = id
      · subst ha
        cases st.dir.svr.get a <;> simp
      · simp [ha]
  exact hrun _ _

end Sweeper

@[simp] theorem canAccept_shutdown (n : RegisteredNode) :
    NodeDescriptor.canAccept { n.toNodeDescriptor with status := .shutdown } = false := rfl

namespace HeardDirectory

/-- Every node that could be chosen has been heard of. -/
def Heard (w : HeardDirectory) : Prop :=
  ∀ id n, w.dir.svr.get id = some n → n.canAccept = true → w.beating id = true

/-- Every node is registered under its own name. -/
def Keyed (w : HeardDirectory) : Prop := ∀ id n, w.dir.svr.get id = some n → n.nodeID = id

/-- One node is written, and what is recorded of it. -/
theorem Heard.set_iff {w : HeardDirectory} (h : w.Heard) (id : ServerID) (n : RegisteredNode)
    (v : Bool) (zones : Dict String ServerID) :
    Heard ⟨⟨w.dir.svr.set id n, zones⟩, Function.update w.beating id v⟩ ↔
      (n.canAccept = true → v = true) := by
  constructor
  · intro hset hacc
    simpa using hset id n (Dict.get_set_self _ _ _) hacc
  · intro hv a m hm hacc
    simp only [Dict.get_set] at hm
    split_ifs at hm with ha
    · cases hm
      simpa [ha] using hv hacc
    · simpa [ha] using h a m hm hacc

/-- Some nodes are marked, and what is recorded of the others stays. -/
theorem Heard.of_marked {w w' : HeardDirectory} (h : w.Heard) (P : ServerID → Prop)
    [DecidablePred P] (hget : ∀ a, w'.dir.svr.get a =
      if P a then (w.dir.svr.get a).map fun n => { n with status := .shutdown }
      else w.dir.svr.get a)
    (hbeating : ∀ a, ¬P a → w'.beating a = w.beating a) : w'.Heard := by
  intro a n hn hacc
  rw [hget] at hn
  split_ifs at hn with ha
  · obtain ⟨old, -, rfl⟩ := Option.map_eq_some_iff.mp hn
    simp at hacc
  · rw [hbeating a ha]
    exact h a n hn hacc

/-- What a call can do: a refused one nothing, and the others enter a new node, note that
a node was heard of, take a node out or mark some. -/
theorem step_cases (w : HeardDirectory) (c : RegistryCall) :
    (w.step c = w ∧ w.dir.RegistersInactive c) ∨
    (∃ info now, c = .register info now ∧ w.dir.svr.get info.nodeID = none ∧
      w.step c = ⟨⟨w.dir.svr.set info.nodeID ⟨info, now⟩, w.dir.zones⟩,
        Function.update w.beating info.nodeID false⟩) ∨
    (∃ id old n, w.dir.svr.get id = some old ∧ n.nodeID = old.nodeID ∧
      w.step c = ⟨⟨w.dir.svr.set id n, w.dir.zones⟩, Function.update w.beating id true⟩ ∧
      w.dir.RegistersInactive c) ∨
    (∃ id, w.step c = ⟨⟨w.dir.svr.del id, w.dir.zones⟩, Function.update w.beating id false⟩ ∧
      w.dir.RegistersInactive c) ∨
    ∃ marked : List ServerID, (∀ a, (w.step c).dir.svr.get a =
        if a ∈ marked then (w.dir.svr.get a).map fun n => { n with status := .shutdown }
        else w.dir.svr.get a) ∧
      (∀ a, a ∉ marked → (w.step c).beating a = w.beating a) ∧ w.dir.RegistersInactive c := by
  cases c with
  | register info now =>
    rcases hget : w.dir.svr.get info.nodeID with _ | old
    · refine .inr (.inl ⟨info, now, rfl, hget, ?_⟩)
      simp [step, Directory.step, Directory.orSame, Directory.register, Directory.heard, hget]
    · refine .inl ⟨?_, by simp [Directory.RegistersInactive, hget]⟩
      simp [step, Directory.step, Directory.orSame, Directory.register, Directory.heard, hget]
  | heartbeat id now =>
    rcases hget : w.dir.svr.get id with _ | old
    · refine .inl ⟨?_, trivial⟩
      simp [step, Directory.step, Directory.orSame, Directory.heartbeat, Directory.heard, hget]
    · refine .inr (.inr (.inl ⟨id, old, { old with lastHeartbeat := now, status := .active },
        hget, rfl, ?_, trivial⟩))
      simp [step, Directory.step, Directory.orSame, Directory.heartbeat, Directory.heard, hget]
  | updateLoad id load now =>
    rcases hget : w.dir.svr.get id with _ | old
    · refine .inl ⟨?_, trivial⟩
      simp [step, Directory.step, Directory.orSame, Directory.updateLoad, Directory.heard, hget]
    · refine .inr (.inr (.inl ⟨id, old,
        { old with load := load, lastHeartbeat := now, status := .active }, hget, rfl, ?_,
        trivial⟩))
      simp [step, Directory.step, Directory.orSame, Directory.updateLoad, Directory.heard, hget]
  | remove id => exact .inr (.inr (.inr (.inl ⟨id, rfl, trivial⟩)))
  | sweep cfg reassign inp =>
    refine .inr (.inr (.inr (.inr ⟨Sweeper.overdue cfg inp w.dir,
      Sweeper.get_sweep reassign inp cfg w.dir, fun a ha => ?_, trivial⟩)))
    simp [step, Directory.heard, ha]
  | mark id =>
    refine .inr (.inr (.inr (.inr ⟨[id], fun a => ?_, fun a ha => ?_, trivial⟩)))
    · rw [show (w.step (.mark id)).dir = w.dir.markShutdown id from rfl, Sweeper.get_markShutdown]
      by_cases ha : a = id <;> simp [ha]
    · exact Function.update_of_ne (by simpa using ha) _ _

theorem Heard.step_iff {w : HeardDirectory} (h : w.Heard) (c : RegistryCall) :
    (w.step c).Heard ↔ w.dir.RegistersInactive c := by
  obtain ⟨heq, hok⟩ | ⟨info, now, rfl, hnew, heq⟩ | ⟨id, old, n, -, -, heq, hok⟩ |
    ⟨id, heq, hok⟩ | ⟨marked, hget, hbeating, hok⟩ := w.step_cases c
  · rw [heq]
    exact iff_of_true h hok
  · rw [heq, h.set_iff]
    simp [Directory.RegistersInactive, hnew]
  · rw [heq, h.set_iff]
    exact iff_of_true (fun _ => rfl) hok
  · rw [heq]
    refine iff_of_true (fun a n hn hacc => ?_) hok
    simp only [Dict.get_del] at hn
    split_ifs at hn with ha
    simpa [ha] using h a n hn hacc
  · exact iff_of_true (h.of_marked (· ∈ marked) hget hbeating) hok

/-- A node that is there after a call was there before under its name, or has just
been registered under it. -/
theorem nodeID_step {w : HeardDirectory} {c : RegistryCall} {a : ServerID} {n : RegisteredNode}
    (h : (w.step c).dir.svr.get a = some n) :
    n.nodeID = a ∨ ∃ old, w.dir.svr.get a = some old ∧ n.nodeID = old.nodeID := by
  obtain ⟨heq, -⟩ | ⟨info, now, -, -, heq⟩ | ⟨id, old, m, hold, hname, heq, -⟩ | ⟨id, heq, -⟩ |
    ⟨marked, hget, -, -⟩ := w.step_cases c
  · rw [heq] at h
    exact .inr ⟨n, h, rfl⟩
  · simp only [heq, Dict.get_set] at h
    split_ifs at h with ha
    · cases h
      exact .inl ha.symm
    · exact .inr ⟨n, h, rfl⟩
  · simp only [heq, Dict.get_set] at h
    split_ifs at h with ha
    · cases h
      exact .inr ⟨old, ha ▸ hold, hname⟩
    · exact .inr ⟨n, h, rfl⟩
  · simp only [heq, Dict.get_del] at h
    split_ifs at h
    exact .inr ⟨n, h, rfl⟩
  · rw [hget] at h
    split_ifs at h
    · obtain ⟨old, hold, rfl⟩ := Option.map_eq_some_iff.mp h
      exact .inr ⟨old, hold, rfl⟩
    · exact .inr ⟨n, h, rfl⟩

theorem Keyed.step {w : HeardDirectory} (h : w.Keyed) (c : RegistryCall) : (w.step c).Keyed := by
  intro a n hn
  obtain hname | ⟨old, hold, hname⟩ := nodeID_step hn
  · exact hname
  · rw [hname, h a old hold]

/-- Who is chosen is a node of the registry that could be. -/
theorem Heard.leastLoaded {w : HeardDirectory} (h : w.Heard) (hkeyed : w.Keyed)
    {order : List ServerID} {t : NodeDescriptor} (ht : w.dir.leastLoaded order = some t) :
    w.beating t.nodeID = true := by
  unfold Directory.leastLoaded at ht
  split at ht
  · next n hselect =>
    cases ht
    obtain ⟨hmem, hacc⟩ := LeastLoadedAllocator.select_eq_ok hselect
    simp only [List.mem_map, Option.some.injEq, exists_eq_right, Directory.list,
      List.mem_filterMap, Option.map_eq_some_iff] at hmem
    obtain ⟨id, -, n, hn, rfl⟩ := hmem
    rw [hkeyed id n hn]
    exact h id n hn hacc
  · cases ht

end HeardDirectory

/-- In every run the registry chooses only nodes that have been heard of since they
were registered and were not marked since, and only such nodes are candidates, if and
only if no new node is registered with a descriptor that could be chosen at once. -/
theorem scheduled_nodes_are_heard_iff (zones : Dict String ServerID) (cs : List RegistryCall) :
    (∀ part, part <+: cs →
      let w := exec HeardDirectory.step (HeardDirectory.start zones) part
      (∀ order t, w.dir.leastLoaded order = some t → w.beating t.nodeID = true) ∧
        ∀ id n, w.dir.svr.get id = some n → n.canAccept = true → w.beating id = true) ↔
      Along Directory.step Directory.RegistersInactive ⟨∅, zones⟩ cs := by
  have hstart : (HeardDirectory.start zones).Heard := fun id n hn => by
    simp [HeardDirectory.start] at hn
  have hkeyed : ∀ part, (exec HeardDirectory.step (HeardDirectory.start zones) part).Keyed :=
    fun part => exec_keeps HeardDirectory.Keyed (fun w c hw => hw.step c)
      (fun id n hn => by simp [HeardDirectory.start] at hn) part
  have hparts : Along Directory.step Directory.RegistersInactive ⟨∅, zones⟩ cs ↔
      ∀ part, part <+: cs → (exec HeardDirectory.step (HeardDirectory.start zones) part).Heard :=
    (along_proj_iff HeardDirectory.dir fun _ _ => rfl).symm.trans
      (along_iff_forall_part (fun w c (hw : w.Heard) => hw.step_iff c) hstart cs)
  rw [hparts]
  exact forall₂_congr fun part _ =>
    ⟨fun h => h.2, fun h => ⟨fun order t ht => h.leastLoaded (hkeyed part) ht, h⟩⟩

/-- A node is registered with an active status and chosen, though nothing was heard
of it. -/
theorem active_registration_is_scheduled :
    let info : NodeDescriptor := ⟨"gs-1", "", "localhost", 9001, ⟨10⟩, ⟨0, 0⟩, .active⟩
    let w := exec HeardDirectory.step (HeardDirectory.start ∅) [.register info 0]
    w.dir.leastLoaded [] = some info ∧ w.beating "gs-1" = false := by
  decide +kernel

end SpatialServer

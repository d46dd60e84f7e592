import SpatialServer.Grid
import SpatialServer.Runs

/-!
# Runs of a grid

A grid is built empty and then entered, left and moved on. The cell lists and
the stored positions describe the same thing as long as every identifier is
either held once, in the cell of its position, or lacking. `Enter` appends to a
cell list without looking for an older entry, so this is kept by exactly the
calls that do not enter a present identifier. On such a grid the search through
the cells finds what going through all the stored positions would find.
-/
namespace SpatialServer.AOI

open Runs

inductive GridCall where
  | enter (id : EntityID) (pos : Vector3)
  | leave (id : EntityID)
  | move (id : EntityID) (pos : Vector3)
  deriving DecidableEq

def step (a : AOI) : GridCall → AOI
  | .enter id pos => a.enter id pos
  | .leave id => a.leave id
  | .move id pos => a.move id pos

/-- The calls after which the identifier is in the grid; a move enters an
identifier that is absent. -/
def GridCall.enters (id : EntityID) : GridCall → Bool
  | .enter other _ | .move other _ => decide (other = id)
  | .leave _ => false

/-- Stored identifiers are listed once, where their position belongs, and no
other identifier is listed. -/
structure WellPlaced (a : AOI) : Prop where
  stored : ∀ id pos, a.positions.get id = some pos →
    ∀ key, (a.cell key).count id = if key = a.cellKeyFor pos then 1 else 0
  listed : ∀ key, ∀ id ∈ a.cell key, (a.positions.get id).isSome

/-- The call does not enter an identifier that is stored already. -/
def Fresh (a : AOI) : GridCall → Prop
  | .enter id _ => a.positions.get id = none
  | _ => True

instance (a : AOI) (c : GridCall) : Decidable (a.Fresh c) := by
  cases c <;> unfold Fresh <;> infer_instance

theorem wellPlaced_iff (a : AOI) :
    a.WellPlaced ↔ ∀ id, (∃ pos, a.Holds id pos) ∨ a.Lacks id := by
  constructor
  · intro h id
    rcases hget : a.positions.get id with _ | pos
    · refine .inr ⟨hget, fun key => List.count_eq_zero.mpr fun hmem => ?_⟩
      simpa [hget] using h.listed key id hmem
    · exact .inl ⟨pos, hget, h.stored id pos hget⟩
  · intro h
    refine ⟨fun id pos hget => ?_, fun key id hmem => ?_⟩
    · rcases h id with ⟨p, hholds⟩ | hlacks
      · obtain rfl : p = pos := Option.some.inj (hholds.1.symm.trans hget)
        exact hholds.2
      · simp [hlacks.1] at hget
    · rcases h id with ⟨p, hholds⟩ | hlacks
      · simp [hholds.1]
      · exact absurd hmem (List.count_eq_zero.mp (hlacks.2 key))

theorem wellPlaced_new (cellSize radius : ℚ) : (new cellSize radius).WellPlaced :=
  (wellPlaced_iff _).mpr fun id => .inr (new_lacks cellSize radius id)

/-- What a call does to its own identifier decides, the others are as they were. -/
theorem WellPlaced.of_agree {a b : AOI} (h : a.WellPlaced) (id : EntityID)
    (hother : ∀ other, other ≠ id → Agree other a b)
    (hown : (∃ pos, b.Holds id pos) ∨ b.Lacks id) : b.WellPlaced := by
  refine (wellPlaced_iff b).mpr fun other => ?_
  by_cases hid : other = id
  · rw [hid]; exact hown
  · have hagree := hother other hid
    rcases (wellPlaced_iff a).mp h other with ⟨pos, hholds⟩ | hlacks
    · exact .inl ⟨pos, hagree.holds hholds⟩
    · exact .inr (hagree.lacks hlacks)

/-- Entering a held identifier leaves its old entry in the lists. -/
theorem Holds.enter_not_wellPlaced {a : AOI} {id : EntityID} {p : Vector3} (h : a.Holds id p)
    (pos : Vector3) : ¬(a.enter id pos).WellPlaced := by
  intro hplaced
  have hcount := hplaced.stored id pos (Dict.get_set_self _ _ _) (a.cellKeyFor p)
  rw [cellKeyFor_enter] at hcount
  simp only [enter, cell_setPosition, cell_appendTo] at hcount
  split_ifs at hcount with hkey
  · -- the same cell lists it twice
    rw [← hkey, List.count_append, h.2, if_pos rfl] at hcount
    simp at hcount
  · -- the old cell lists it still
    rw [h.2, if_pos rfl] at hcount
    exact absurd hcount one_ne_zero

theorem WellPlaced.step_iff {a : AOI} (h : a.WellPlaced) (c : GridCall) :
    (a.step c).WellPlaced ↔ a.Fresh c := by
  cases c with
  | enter id pos =>
    rcases (wellPlaced_iff a).mp h id with ⟨p, hholds⟩ | hlacks
    · exact iff_of_false (hholds.enter_not_wellPlaced pos) (by simp [Fresh, hholds.1])
    · refine iff_of_true ?_ hlacks.1
      exact h.of_agree id (fun other hne => agree_enter a pos hne)
        (.inl ⟨pos, hlacks.enter_holds pos⟩)
  | leave id =>
    refine iff_of_true (h.of_agree id (fun other hne => agree_leave a hne) (.inr ?_)) trivial
    rcases (wellPlaced_iff a).mp h id with ⟨p, hholds⟩ | hlacks
    · exact hholds.leave_lacks
    · simpa only [step, leave, hlacks.1] using hlacks
  | move id pos =>
    refine iff_of_true (h.of_agree id (fun other hne => agree_move a pos hne) (.inl ⟨pos, ?_⟩))
      trivial
    rcases (wellPlaced_iff a).mp h id with ⟨p, hholds⟩ | hlacks
    · exact hholds.move_holds pos
    · simpa only [step, move, hlacks.1] using hlacks.enter_holds pos

/-- Two identifiers entered into a new grid. -/
theorem wellPlaced_pair (cellSize radius : ℚ) {id id' : EntityID} (hne : id' ≠ id)
    (pos pos' : Vector3) :
    (((new cellSize radius).enter id pos).enter id' pos').WellPlaced := by
  have hfirst := ((wellPlaced_new cellSize radius).step_iff (.enter id pos)).mpr rfl
  have hlacks := (agree_enter _ pos hne).lacks (new_lacks cellSize radius id')
  exact (hfirst.step_iff (.enter id' pos')).mpr hlacks.1

/-- An identifier that is lacking stays lacking until it is entered. -/
theorem Lacks.exec {a : AOI} {id : EntityID} (h : a.Lacks id) {cs : List GridCall}
    (hcs : ∀ c ∈ cs, c.enters id = false) : (exec step a cs).Lacks id := by
  have halong : Along step (fun _ c => c.enters id = false) a cs := .of_forall_mem fun _ => hcs
  refine exec_invariant (fun b : AOI => b.Lacks id) (fun b c hlacks hc => ?_) h halong
  cases c with
  | enter other pos =>
    exact (agree_enter b pos (by simpa [GridCall.enters, eq_comm] using hc)).lacks hlacks
  | leave other =>
    by_cases hid : id = other
    · subst hid
      simpa only [step, leave, hlacks.1] using hlacks
    · exact (agree_leave b hid).lacks hlacks
  | move other pos =>
    exact (agree_move b pos (by simpa [GridCall.enters, eq_comm] using hc)).lacks hlacks

/-- The lists and the positions agree after every part of a run, and nobody who
has left is found until entered again, if and only if the run never enters an
identifier that is present. -/
theorem representation_iff (cellSize radius : ℚ) (cs : List GridCall) :
    ((∀ part, part <+: cs → (exec step (new cellSize radius) part).WellPlaced) ∧
      ∀ pre id rest, pre ++ .leave id :: rest <+: cs → (∀ c ∈ rest, c.enters id = false) →
        ∀ pos, id ∉ (exec step (new cellSize radius) (pre ++ .leave id :: rest)).query pos) ↔
      Along step Fresh (new cellSize radius) cs := by
  have hstep : ∀ (a : AOI) c, a.WellPlaced → ((a.step c).WellPlaced ↔ a.Fresh c) :=
    fun a c h => h.step_iff c
  have hparts := along_iff_forall_part hstep (wellPlaced_new cellSize radius) cs
  refine ⟨fun h => hparts.mpr h.1, fun h => ⟨hparts.mp h, ?_⟩⟩
  intro pre id rest hpart hrest pos
  have hplaced : (exec step (new cellSize radius) pre).WellPlaced :=
    hparts.mp h pre ((List.prefix_append _ _).trans hpart)
  have hleft : ((exec step (new cellSize radius) pre).leave id).Lacks id := by
    rcases (wellPlaced_iff _).mp hplaced id with ⟨p, hholds⟩ | hlacks
    · exact hholds.leave_lacks
    · simpa only [leave, hlacks.1] using hlacks
  rw [exec_append]
  exact (hleft.exec hrest).not_mem_query pos

/-- An identifier entered in two cells and then left is found in the first. -/
theorem entered_twice_is_found :
    let cs : List GridCall := [.enter "c1" ⟨0, 0, 0⟩, .enter "c1" ⟨150, 0, 0⟩, .leave "c1"]
    ¬(exec step (new 100 300) (cs.take 2)).WellPlaced ∧
      "c1" ∈ (exec step (new 100 300) cs).query ⟨0, 0, 0⟩ ∧
      (exec step (new 100 300) cs).positions.get "c1" = none := by
  refine ⟨?_, by decide +kernel, by decide +kernel⟩
  exact (new_lacks 100 300 "c1").enter_holds ⟨0, 0, 0⟩ |>.enter_not_wellPlaced ⟨150, 0, 0⟩

/-- Going through all the stored positions, without the cells. -/
def scan (a : AOI) (center : Vector3) (r : ℚ) : List EntityID :=
  (a.positions.keys.filter fun id =>
    decide (distSq (a.positionOf id) center ≤ r * r)).insertionSort (· ≤ ·)

theorem mem_scan (a : AOI) (center : Vector3) (r : ℚ) (id : EntityID) :
    id ∈ a.scan center r ↔
      ∃ pos, a.positions.get id = some pos ∧ distSq pos center ≤ r * r := by
  simp only [scan, List.mem_insertionSort, List.mem_filter, decide_eq_true_eq,
    show id ∈ AList.keys a.positions ↔ _ from Dict.mem_keys_iff a.positions id]
  rcases hget : a.positions.get id with _ | pos <;> simp [positionOf, hget]

theorem scan_increasing (a : AOI) (center : Vector3) (r : ℚ) :
    (a.scan center r).Pairwise (· < ·) := by
  have hnodup : (a.scan center r).Nodup :=
    (List.perm_insertionSort _ _).nodup_iff.mpr ((AList.keys_nodup _).filter _)
  exact ((List.pairwise_insertionSort _ _).and hnodup).imp fun h => lt_of_le_of_ne h.1 h.2

theorem entitiesInRange_increasing (a : AOI) (center : Vector3) (r : ℚ) :
    (a.entitiesInRange center r).Pairwise (· < ·) :=
  (a.query_increasing center).filter _

theorem WellPlaced.mem_entitiesInRange_iff {a : AOI} (h : a.WellPlaced) {radius r : ℚ}
    (hcov : a.Covers radius) (hr : 0 ≤ r) (hle : r ≤ radius) (center : Vector3) (id : EntityID) :
    id ∈ a.entitiesInRange center r ↔
      ∃ pos, a.positions.get id = some pos ∧ distSq pos center ≤ r * r := by
  rcases (wellPlaced_iff a).mp h id with ⟨pos, hholds⟩ | hlacks
  · rw [hholds.lists.mem_entitiesInRange_iff_of_le hcov hr hle, hholds.1]
    simp
  · have hnot : id ∉ a.entitiesInRange center r := fun hmem =>
      hlacks.not_mem_query center ((mem_entitiesInRange a center r id).mp hmem).1
    simp [hnot, hlacks.1]

/-- Up to the radius a grid was built for, the search through the cells is the
linear scan: its result lists in increasing order who is stored within the
distance, and they are among what the cells around the centre list. -/
theorem range_query_eq_scan (cellSize radius : ℚ) (hsize : 0 < cellSize) (a : AOI)
    (hbuilt : SameCells (new cellSize radius) a) (hplaced : a.WellPlaced) (center : Vector3)
    (r : ℚ) (hr : 0 ≤ r) (hle : r ≤ radius) :
    a.entitiesInRange center r = a.scan center r ∧
      (a.entitiesInRange center r).Pairwise (· < ·) ∧
      (∀ id, id ∈ a.entitiesInRange center r ↔
        ∃ pos, a.positions.get id = some pos ∧ distSq pos center ≤ r * r) ∧
      (a.query center).Pairwise (· < ·) ∧ (a.query center).Nodup ∧
      ∀ id ∈ a.entitiesInRange center r, id ∈ a.query center := by
  have hcov : a.Covers radius := by
    refine ⟨hbuilt.1 ▸ hsize, ?_⟩
    rw [hbuilt.2, hbuilt.1]
    rfl
  have hmem := hplaced.mem_entitiesInRange_iff hcov hr hle center
  have hinc := a.query_increasing center
  refine ⟨?_, a.entitiesInRange_increasing center r, hmem, hinc, hinc.imp ne_of_lt, ?_⟩
  · refine (a.entitiesInRange_increasing center r).eq_of_mem_iff (a.scan_increasing center r) ?_
    intro id
    rw [hmem, mem_scan]
  · intro id hid
    exact ((mem_entitiesInRange a center r id).mp hid).1

/-- A point on the edge of a cell and one at negative coordinates, with a radius
that is no multiple of the cell size. -/
theorem range_query_across_cells :
    let a := ((new 10 25).enter "b" ⟨10, 0, 0⟩).enter "a" ⟨-14, 0, -1⟩
    a.WellPlaced ∧ a.entitiesInRange ⟨10, 0, 0⟩ 25 = ["a", "b"] ∧
      a.entitiesInRange ⟨10, 0, 0⟩ 25 = a.scan ⟨10, 0, 0⟩ 25 := by
  have hplaced := wellPlaced_pair 10 25 (by decide : "a" ≠ "b") ⟨10, 0, 0⟩ ⟨-14, 0, -1⟩
  refine ⟨hplaced, by decide +kernel, ?_⟩
  have hbuilt : SameCells (new 10 25) _ := (SameCells.enter _ "b" ⟨10, 0, 0⟩).trans
    (SameCells.enter _ "a" ⟨-14, 0, -1⟩)
  exact (range_query_eq_scan 10 25 (by norm_num) _ hbuilt hplaced ⟨10, 0, 0⟩ 25 (by norm_num)
    le_rfl).1

end SpatialServer.AOI

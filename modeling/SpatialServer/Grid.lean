import SpatialServer.Entities
import Mathlib.Data.List.Sort
import Mathlib.Data.String.Basic

/-!
# The area-of-interest grid

Identifiers are listed in square cells of the horizontal plane and their
positions are kept beside. A query collects the cells around a point and the
range query keeps the identifiers whose stored position is close enough. The
two structures are updated by hand by every operation, so each operation is
specified here by what it does to one identifier (`Holds`, `Lacks`) and by the
fact that it does nothing to the others (`Agree`).
-/
namespace SpatialServer

structure CellKey where
  x : ℤ
  y : ℤ
  deriving DecidableEq, Repr

structure AOI where
  cellSize : ℚ
  radius : ℚ
  cellRange : ℤ
  cells : Dict CellKey (List EntityID)
  positions : Dict EntityID Vector3

namespace AOI

def new (cellSize radius : ℚ) : AOI := ⟨cellSize, radius, ⌈radius / cellSize⌉, ∅, ∅⟩

instance : Inhabited AOI := ⟨new 0 0⟩

def cellKeyFor (a : AOI) (pos : Vector3) : CellKey :=
  ⟨⌊pos.x / a.cellSize⌋, ⌊pos.z / a.cellSize⌋⟩

/-- The list of a cell; a cell never written is empty. -/
def cell (a : AOI) (key : CellKey) : List EntityID := (a.cells.get key).getD []

/-- Append the identifier to the list of a cell. -/
def appendTo (a : AOI) (key : CellKey) (id : EntityID) : AOI :=
  { a with cells := a.cells.set key (a.cell key ++ [id]) }

/-- Delete the first occurrence of the identifier from the list of a cell. -/
def dropFrom (a : AOI) (key : CellKey) (id : EntityID) : AOI :=
  if id ∈ a.cell key then { a with cells := a.cells.set key ((a.cell key).erase id) } else a

def setPosition (a : AOI) (id : EntityID) (pos : Vector3) : AOI :=
  { a with positions := a.positions.set id pos }

def enter (a : AOI) (id : EntityID) (pos : Vector3) : AOI :=
  (a.appendTo (a.cellKeyFor pos) id).setPosition id pos

def leave (a : AOI) (id : EntityID) : AOI :=
  match a.positions.get id with
  | none => a
  | some pos =>
    let b := a.dropFrom (a.cellKeyFor pos) id
    { b with positions := b.positions.del id }

def move (a : AOI) (id : EntityID) (newPos : Vector3) : AOI :=
  match a.positions.get id with
  | none => a.enter id newPos
  | some oldPos =>
    if a.cellKeyFor oldPos = a.cellKeyFor newPos then a.setPosition id newPos
    else
      ((a.dropFrom (a.cellKeyFor oldPos) id).appendTo (a.cellKeyFor newPos) id).setPosition
        id newPos

/-- The integers from `-r` to `r`. -/
def around (r : ℤ) : List ℤ := (List.range (2 * r + 1).toNat).map fun i : ℕ => (i : ℤ) - r

/-- The cells around a cell, in the order of the two nested loops. -/
def window (a : AOI) (center : CellKey) : List CellKey :=
  (around a.cellRange).flatMap fun dx =>
    (around a.cellRange).map fun dy => ⟨center.x + dx, center.y + dy⟩

/-- Keep the first occurrence of every identifier. -/
def firstSeen (ids : List EntityID) : List EntityID :=
  ids.foldl (fun seen id => if id ∈ seen then seen else seen ++ [id]) []

def query (a : AOI) (pos : Vector3) : List EntityID :=
  (firstSeen ((a.window (a.cellKeyFor pos)).flatMap a.cell)).insertionSort (· ≤ ·)

/-- The stored position, or the zero vector that a missing map entry reads as. -/
def positionOf (a : AOI) (id : EntityID) : Vector3 := (a.positions.get id).getD Vector3.zero

def entitiesInRange (a : AOI) (center : Vector3) (radius : ℚ) : List EntityID :=
  (a.query center).filter fun id => decide (distSq (a.positionOf id) center ≤ radius * radius)

def count (a : AOI) : ℕ := a.positions.keys.length

/-! The parameters are fixed at construction. -/

section Parameters

variable (a : AOI) (key : CellKey) (id : EntityID) (pos : Vector3)

@[simp] theorem appendTo_cellSize : (a.appendTo key id).cellSize = a.cellSize := rfl
@[simp] theorem appendTo_cellRange : (a.appendTo key id).cellRange = a.cellRange := rfl
@[simp] theorem setPosition_cellSize : (a.setPosition id pos).cellSize = a.cellSize := rfl
@[simp] theorem setPosition_cellRange : (a.setPosition id pos).cellRange = a.cellRange := rfl
@[simp] theorem dropFrom_cellSize : (a.dropFrom key id).cellSize = a.cellSize := by
  unfold dropFrom; split <;> rfl
@[simp] theorem dropFrom_cellRange : (a.dropFrom key id).cellRange = a.cellRange := by
  unfold dropFrom; split <;> rfl
@[simp] theorem enter_cellSize : (a.enter id pos).cellSize = a.cellSize := rfl
@[simp] theorem enter_cellRange : (a.enter id pos).cellRange = a.cellRange := rfl
@[simp] theorem leave_cellSize : (a.leave id).cellSize = a.cellSize := by
  unfold leave; split <;> simp
@[simp] theorem leave_cellRange : (a.leave id).cellRange = a.cellRange := by
  unfold leave; split <;> simp
@[simp] theorem move_cellSize : (a.move id pos).cellSize = a.cellSize := by
  unfold move; split
  · simp
  · split <;> simp
@[simp] theorem move_cellRange : (a.move id pos).cellRange = a.cellRange := by
  unfold move; split
  · simp
  · split <;> simp

@[simp] theorem cellKeyFor_enter (q : Vector3) : (a.enter id pos).cellKeyFor q = a.cellKeyFor q := by
  simp [cellKeyFor]
@[simp] theorem cellKeyFor_leave (q : Vector3) : (a.leave id).cellKeyFor q = a.cellKeyFor q := by
  simp [cellKeyFor]
@[simp] theorem cellKeyFor_move (q : Vector3) : (a.move id pos).cellKeyFor q = a.cellKeyFor q := by
  simp [cellKeyFor]

end Parameters

theorem cell_appendTo (a : AOI) (key k : CellKey) (id : EntityID) :
    (a.appendTo key id).cell k = if k = key then a.cell key ++ [id] else a.cell k := by
  simp only [cell, appendTo, Dict.get_set]
  split_ifs <;> simp

theorem cell_dropFrom (a : AOI) (key k : CellKey) (id : EntityID) :
    (a.dropFrom key id).cell k = if k = key then (a.cell key).erase id else a.cell k := by
  unfold dropFrom
  by_cases hmem : id ∈ a.cell key
  · rw [if_pos hmem]
    simp only [cell, Dict.get_set]
    split_ifs <;> simp
  · rw [if_neg hmem]
    split_ifs with hk
    · subst k; exact (List.erase_of_not_mem hmem).symm
    · rfl

@[simp] theorem positions_appendTo (a : AOI) (key : CellKey) (id : EntityID) :
    (a.appendTo key id).positions = a.positions := rfl

@[simp] theorem positions_dropFrom (a : AOI) (key : CellKey) (id : EntityID) :
    (a.dropFrom key id).positions = a.positions := by
  unfold dropFrom; split <;> rfl

@[simp] theorem cell_setPosition (a : AOI) (id : EntityID) (pos : Vector3) (k : CellKey) :
    (a.setPosition id pos).cell k = a.cell k := rfl

/-- The identifier is stored at `p`, and listed once, in the cell of `p`. -/
def Holds (a : AOI) (id : EntityID) (p : Vector3) : Prop :=
  a.positions.get id = some p ∧
    ∀ key, (a.cell key).count id = if key = a.cellKeyFor p then 1 else 0

/-- The identifier is neither stored nor listed. -/
def Lacks (a : AOI) (id : EntityID) : Prop :=
  a.positions.get id = none ∧ ∀ key, (a.cell key).count id = 0

/-- The two grids have the same cells and treat the identifier alike. -/
def Agree (id : EntityID) (a b : AOI) : Prop :=
  b.cellSize = a.cellSize ∧ b.positions.get id = a.positions.get id ∧
    ∀ key, (b.cell key).count id = (a.cell key).count id

theorem Agree.refl (id : EntityID) (a : AOI) : Agree id a a := ⟨rfl, rfl, fun _ => rfl⟩

theorem Agree.trans {id : EntityID} {a b c : AOI} (h : Agree id a b) (h' : Agree id b c) :
    Agree id a c :=
  ⟨h'.1.trans h.1, h'.2.1.trans h.2.1, fun key => (h'.2.2 key).trans (h.2.2 key)⟩

theorem Agree.holds {id : EntityID} {a b : AOI} {p : Vector3} (h : Agree id a b)
    (ha : a.Holds id p) : b.Holds id p := by
  have hkey : b.cellKeyFor p = a.cellKeyFor p := by simp only [cellKeyFor, h.1]
  refine ⟨h.2.1.trans ha.1, fun key => ?_⟩
  rw [h.2.2 key, ha.2 key, hkey]

theorem Agree.lacks {id : EntityID} {a b : AOI} (h : Agree id a b) (ha : a.Lacks id) :
    b.Lacks id :=
  ⟨h.2.1.trans ha.1, fun key => (h.2.2 key).trans (ha.2 key)⟩

theorem Agree.mem_cell_iff {id : EntityID} {a b : AOI} (h : Agree id a b) (key : CellKey) :
    id ∈ b.cell key ↔ id ∈ a.cell key := by
  rw [← List.count_pos_iff, h.2.2 key, List.count_pos_iff]

theorem new_lacks (cellSize radius : ℚ) (id : EntityID) : (new cellSize radius).Lacks id := by
  refine ⟨Dict.get_empty id, fun key => ?_⟩
  simp [new, cell]

theorem agree_appendTo (a : AOI) (key : CellKey) {id other : EntityID} (hne : other ≠ id) :
    Agree other a (a.appendTo key id) := by
  refine ⟨rfl, rfl, fun k => ?_⟩
  rw [cell_appendTo]
  split_ifs with hk
  · subst k; simp [List.count_append, hne.symm]
  · rfl

theorem agree_dropFrom (a : AOI) (key : CellKey) {id other : EntityID} (hne : other ≠ id) :
    Agree other a (a.dropFrom key id) := by
  refine ⟨by simp, by simp, fun k => ?_⟩
  rw [cell_dropFrom]
  split_ifs with hk
  · subst k; exact List.count_erase_of_ne hne
  · rfl

theorem agree_setPosition (a : AOI) (pos : Vector3) {id other : EntityID} (hne : other ≠ id) :
    Agree other a (a.setPosition id pos) :=
  ⟨rfl, Dict.get_set_ne _ _ hne, fun _ => rfl⟩

/-- Entering an identifier leaves every other one alone. -/
theorem agree_enter (a : AOI) (pos : Vector3) {id other : EntityID} (hne : other ≠ id) :
    Agree other a (a.enter id pos) :=
  (agree_appendTo a _ hne).trans (agree_setPosition _ pos hne)

theorem agree_leave (a : AOI) {id other : EntityID} (hne : other ≠ id) :
    Agree other a (a.leave id) := by
  unfold leave
  split
  · exact Agree.refl other a
  · refine (agree_dropFrom a _ hne).trans ⟨rfl, ?_, fun _ => rfl⟩
    exact Dict.get_del_ne _ hne

theorem agree_move (a : AOI) (pos : Vector3) {id other : EntityID} (hne : other ≠ id) :
    Agree other a (a.move id pos) := by
  unfold move
  split
  · exact agree_enter a pos hne
  · split
    · exact agree_setPosition a pos hne
    · exact ((agree_dropFrom a _ hne).trans (agree_appendTo _ _ hne)).trans
        (agree_setPosition _ pos hne)

theorem Lacks.enter_holds {a : AOI} {id : EntityID} (h : a.Lacks id) (pos : Vector3) :
    (a.enter id pos).Holds id pos := by
  refine ⟨Dict.get_set_self _ _ _, fun key => ?_⟩
  rw [cellKeyFor_enter]
  simp only [enter, cell_setPosition, cell_appendTo]
  split_ifs with hk
  · simp [List.count_append, h.2]
  · exact h.2 key

theorem Holds.leave_lacks {a : AOI} {id : EntityID} {p : Vector3} (h : a.Holds id p) :
    (a.leave id).Lacks id := by
  unfold leave
  simp only [h.1]
  refine ⟨Dict.get_del_self _ _, fun key => ?_⟩
  change ((a.dropFrom (a.cellKeyFor p) id).cell key).count id = 0
  rw [cell_dropFrom]
  split_ifs with hk
  · rw [List.count_erase_self, h.2, if_pos rfl]
  · rw [h.2, if_neg hk]

theorem Holds.move_holds {a : AOI} {id : EntityID} {p : Vector3} (h : a.Holds id p)
    (pos : Vector3) : (a.move id pos).Holds id pos := by
  unfold move
  simp only [h.1]
  split_ifs with hkey
  · -- same cell: only the position is rewritten
    refine ⟨Dict.get_set_self _ _ _, fun key => ?_⟩
    rw [cell_setPosition, h.2, hkey]
    rfl
  · refine ⟨Dict.get_set_self _ _ _, fun key => ?_⟩
    have hcell : (((a.dropFrom (a.cellKeyFor p) id).appendTo (a.cellKeyFor pos) id).setPosition
        id pos).cellKeyFor pos = a.cellKeyFor pos := by simp [cellKeyFor]
    rw [hcell, cell_setPosition, cell_appendTo]
    split_ifs with hk
    · rw [cell_dropFrom, if_neg (Ne.symm hkey), List.count_append, h.2, if_neg (Ne.symm hkey)]
      simp
    · rw [cell_dropFrom]
      split_ifs with hk'
      · rw [List.count_erase_self, h.2, if_pos rfl]
      · rw [h.2, if_neg hk']

/-! What a query can return. -/

theorem mem_around {r d : ℤ} : d ∈ around r ↔ -r ≤ d ∧ d ≤ r := by
  simp only [around, List.mem_map, List.mem_range]
  constructor
  · rintro ⟨i, hi, rfl⟩; omega
  · rintro ⟨hl, hu⟩; exact ⟨(d + r).toNat, by omega, by omega⟩

theorem mem_window (a : AOI) (center key : CellKey) :
    key ∈ a.window center ↔ |key.x - center.x| ≤ a.cellRange ∧ |key.y - center.y| ≤ a.cellRange := by
  simp only [window, List.mem_flatMap, List.mem_map, mem_around, abs_le]
  constructor
  · rintro ⟨dx, hdx, dy, hdy, rfl⟩
    simp only [add_sub_cancel_left]
    exact ⟨hdx, hdy⟩
  · rintro ⟨hx, hy⟩
    refine ⟨key.x - center.x, hx, key.y - center.y, hy, ?_⟩
    simp

theorem mem_foldl_firstSeen (ids seen : List EntityID) (id : EntityID) :
    id ∈ ids.foldl (fun seen id => if id ∈ seen then seen else seen ++ [id]) seen ↔
      id ∈ seen ∨ id ∈ ids := by
  induction ids generalizing seen with
  | nil => simp
  | cons a ids ih =>
    rw [List.foldl_cons, ih]
    split_ifs with ha
    · constructor
      · rintro (h | h) <;> simp [h]
      · rintro (h | h)
        · exact Or.inl h
        · rcases List.mem_cons.mp h with rfl | h
          · exact Or.inl ha
          · exact Or.inr h
    · simp [or_assoc]

@[simp] theorem mem_firstSeen (ids : List EntityID) (id : EntityID) :
    id ∈ firstSeen ids ↔ id ∈ ids := by simp [firstSeen, mem_foldl_firstSeen]

theorem nodup_firstSeen (ids : List EntityID) : (firstSeen ids).Nodup := by
  refine List.foldlRecOn ids _ (motive := List.Nodup) List.nodup_nil fun seen hseen id _ => ?_
  split_ifs with hid
  · exact hseen
  · refine List.Nodup.append hseen (List.nodup_singleton id) ?_
    simpa using hid

theorem mem_query (a : AOI) (pos : Vector3) (id : EntityID) :
    id ∈ a.query pos ↔ ∃ key ∈ a.window (a.cellKeyFor pos), id ∈ a.cell key := by
  rw [query, List.mem_insertionSort, mem_firstSeen, List.mem_flatMap]

/-- A query returns every identifier once, in increasing order. -/
theorem query_increasing (a : AOI) (pos : Vector3) : (a.query pos).Pairwise (· < ·) := by
  have hnodup : (a.query pos).Nodup := (List.perm_insertionSort _ _).nodup_iff.mpr (nodup_firstSeen _)
  exact ((List.pairwise_insertionSort _ _).and hnodup).imp fun h => lt_of_le_of_ne h.1 h.2

theorem mem_entitiesInRange (a : AOI) (center : Vector3) (radius : ℚ) (id : EntityID) :
    id ∈ a.entitiesInRange center radius ↔
      id ∈ a.query center ∧ distSq (a.positionOf id) center ≤ radius * radius := by
  simp [entitiesInRange]

/-- A query never returns an identifier the grid lacks. -/
theorem Lacks.not_mem_query {a : AOI} {id : EntityID} (h : a.Lacks id) (pos : Vector3) :
    id ∉ a.query pos := by
  rw [mem_query]
  rintro ⟨key, _, hmem⟩
  exact (List.count_pos_iff.mpr hmem).ne' (h.2 key)

/-- The grid is built for its radius: positive cells, and a cell range that
covers the radius. -/
def Covers (a : AOI) (radius : ℚ) : Prop :=
  0 < a.cellSize ∧ a.cellRange = ⌈radius / a.cellSize⌉

theorem floor_sub_abs_le {s t c r : ℚ} (hc : 0 < c) (h : |s - t| ≤ r) :
    |⌊s / c⌋ - ⌊t / c⌋| ≤ ⌈r / c⌉ := by
  have hquot : |s / c - t / c| ≤ (⌈r / c⌉ : ℚ) := by
    rw [← sub_div, abs_div, abs_of_pos hc]
    exact (div_le_div_of_nonneg_right h hc.le).trans (Int.le_ceil _)
  rw [abs_le] at hquot ⊢
  constructor
  · have : ⌊t / c⌋ ≤ ⌊s / c⌋ + ⌈r / c⌉ := by
      rw [← Int.floor_add_intCast]
      exact Int.floor_le_floor (by linarith [hquot.1])
    omega
  · have : ⌊s / c⌋ ≤ ⌊t / c⌋ + ⌈r / c⌉ := by
      rw [← Int.floor_add_intCast]
      exact Int.floor_le_floor (by linarith [hquot.2])
    omega

theorem abs_le_of_distSq_le {p q : Vector3} {r : ℚ} (hr : 0 ≤ r) (h : distSq p q ≤ r * r) :
    |p.x - q.x| ≤ r ∧ |p.z - q.z| ≤ r := by
  simp only [distSq] at h
  constructor
  · apply abs_le_of_sq_le_sq _ hr
    nlinarith [mul_self_nonneg (p.z - q.z)]
  · apply abs_le_of_sq_le_sq _ hr
    nlinarith [mul_self_nonneg (p.x - q.x)]

/-- The identifier is stored at the position and listed in its cell, if in no other. -/
def Lists (a : AOI) (id : EntityID) (pos : Vector3) : Prop :=
  a.positions.get id = some pos ∧ id ∈ a.cell (a.cellKeyFor pos)

instance (a : AOI) (id : EntityID) (pos : Vector3) : Decidable (a.Lists id pos) :=
  inferInstanceAs (Decidable (_ ∧ _))

theorem Holds.lists {a : AOI} {id : EntityID} {p : Vector3} (h : a.Holds id p) : a.Lists id p := by
  refine ⟨h.1, List.count_pos_iff.mp ?_⟩
  rw [h.2, if_pos rfl]
  exact Nat.one_pos

/-- For an identifier in the cell of its position, a range query up to the radius of
the grid is the distance test. -/
theorem Lists.mem_entitiesInRange_iff_of_le {a : AOI} {id : EntityID} {p : Vector3}
    (h : a.Lists id p) {radius r : ℚ} (hcov : a.Covers radius) (hr : 0 ≤ r) (hle : r ≤ radius)
    (center : Vector3) : id ∈ a.entitiesInRange center r ↔ distSq p center ≤ r * r := by
  have hpos : a.positionOf id = p := by simp [positionOf, h.1]
  rw [mem_entitiesInRange, hpos, and_iff_right_iff_imp]
  intro hdist
  obtain ⟨hx, hz⟩ := abs_le_of_distSq_le hr hdist
  rw [mem_query]
  refine ⟨a.cellKeyFor p, ?_, h.2⟩
  rw [mem_window, hcov.2]
  exact ⟨floor_sub_abs_le hcov.1 (hx.trans hle), floor_sub_abs_le hcov.1 (hz.trans hle)⟩

theorem Holds.mem_entitiesInRange_iff {a : AOI} {id : EntityID} {p : Vector3}
    (h : a.Holds id p) {radius : ℚ} (hcov : a.Covers radius) (hr : 0 ≤ radius)
    (center : Vector3) :
    id ∈ a.entitiesInRange center radius ↔ distSq p center ≤ radius * radius :=
  h.lists.mem_entitiesInRange_iff_of_le hcov hr le_rfl center

/-- The grid keeps its parameters. -/
def SameCells (a b : AOI) : Prop := b.cellSize = a.cellSize ∧ b.cellRange = a.cellRange

namespace SameCells

variable (a : AOI) (id : EntityID) (pos : Vector3)

theorem refl : SameCells a a := ⟨rfl, rfl⟩

theorem trans {a b c : AOI} (h : SameCells a b) (h' : SameCells b c) : SameCells a c :=
  ⟨h'.1.trans h.1, h'.2.trans h.2⟩

theorem enter : SameCells a (a.enter id pos) := ⟨rfl, rfl⟩

theorem leave : SameCells a (a.leave id) := ⟨by simp, by simp⟩

theorem move : SameCells a (a.move id pos) := ⟨by simp, by simp⟩

end SameCells

/-- Grids that treat an identifier alike find it at the same places. -/
theorem Agree.mem_entitiesInRange_iff {id : EntityID} {a b : AOI} (h : Agree id a b)
    (hcells : SameCells a b) (center : Vector3) (radius : ℚ) :
    id ∈ b.entitiesInRange center radius ↔ id ∈ a.entitiesInRange center radius := by
  have hkey : b.cellKeyFor center = a.cellKeyFor center := by simp only [cellKeyFor, h.1]
  have hpos : b.positionOf id = a.positionOf id := by simp only [positionOf, h.2.1]
  simp only [mem_entitiesInRange, mem_query, mem_window, hcells.2, hkey, hpos, h.mem_cell_iff]

end AOI

end SpatialServer

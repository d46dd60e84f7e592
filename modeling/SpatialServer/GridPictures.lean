import SpatialServer.Grid

/-!
# What a grid shows

Lists of cells are in no particular order, and neither are maps. A picture of a
grid forgets both: it says of every identifier where it is stored and how often
each cell lists it. Every operation rewrites what the picture says of its own
identifier, and no query can tell two grids with one picture apart.
-/
namespace SpatialServer.AOI

/-- What a grid knows of one identifier. -/
@[ext]
structure Presence where
  position : Option Vector3
  /-- How often a cell lists the identifier. -/
  listed : CellKey → ℕ

/-- The cell of a position, in cells of the given size. -/
def keyFor (cellSize : ℚ) (pos : Vector3) : CellKey :=
  ⟨⌊pos.x / cellSize⌋, ⌊pos.z / cellSize⌋⟩

namespace Presence

def enter (pos : Vector3) (cellSize : ℚ) (p : Presence) : Presence :=
  ⟨some pos, Function.update p.listed (keyFor cellSize pos) (p.listed (keyFor cellSize pos) + 1)⟩

def leave (cellSize : ℚ) (p : Presence) : Presence :=
  match p.position with
  | none => p
  | some pos => ⟨none,
      Function.update p.listed (keyFor cellSize pos) (p.listed (keyFor cellSize pos) - 1)⟩

def move (newPos : Vector3) (cellSize : ℚ) (p : Presence) : Presence :=
  match p.position with
  | none => p.enter newPos cellSize
  | some oldPos =>
    if keyFor cellSize oldPos = keyFor cellSize newPos then ⟨some newPos, p.listed⟩
    else enter newPos cellSize (p.leave cellSize)

end Presence

@[ext]
structure Picture where
  cellSize : ℚ
  radius : ℚ
  cellRange : ℤ
  presence : EntityID → Presence

def picture (a : AOI) : Picture where
  cellSize := a.cellSize
  radius := a.radius
  cellRange := a.cellRange
  presence id := ⟨a.positions.get id, fun key => (a.cell key).count id⟩

namespace Picture

/-- Rewrite what the picture says of one identifier. -/
def edit (A : Picture) (id : EntityID) (f : ℚ → Presence → Presence) : Picture :=
  { A with presence := Function.update A.presence id (f A.cellSize (A.presence id)) }

theorem edit_comm (A : Picture) {a b : EntityID} (hab : a ≠ b) (f g : ℚ → Presence → Presence) :
    (A.edit a f).edit b g = (A.edit b g).edit a f := by
  simp only [edit, Function.update_of_ne hab, Function.update_of_ne hab.symm]
  rw [Function.update_comm hab]

/-- The identifiers in range of a point. -/
def seen (A : Picture) (center : Vector3) (radius : ℚ) : Set EntityID :=
  {id | (∃ key : CellKey, |key.x - (keyFor A.cellSize center).x| ≤ A.cellRange ∧
      |key.y - (keyFor A.cellSize center).y| ≤ A.cellRange ∧ 0 < (A.presence id).listed key) ∧
    distSq ((A.presence id).position.getD Vector3.zero) center ≤ radius * radius}

end Picture

/-! ## Operations -/

/-- The list of a cell, the parameters and the other identifiers apart, an operation
does what it does to its identifier. -/
theorem picture_eq_edit {a b : AOI} {id : EntityID} {f : ℚ → Presence → Presence}
    (hradius : b.radius = a.radius) (hrange : b.cellRange = a.cellRange)
    (hsize : b.cellSize = a.cellSize) (hother : ∀ other, other ≠ id → Agree other a b)
    (hself : b.picture.presence id = f a.cellSize (a.picture.presence id)) :
    b.picture = a.picture.edit id f := by
  ext1
  · exact hsize
  · exact hradius
  · exact hrange
  · funext x
    by_cases hx : x = id
    · subst hx
      rw [hself]
      simp [Picture.edit, picture]
    · obtain ⟨-, hpos, hcount⟩ := hother x hx
      simp only [Picture.edit, Function.update_of_ne hx]
      ext1
      · exact hpos
      · exact funext hcount

section Operations

variable (a : AOI) (id : EntityID) (pos : Vector3)

@[simp] theorem dropFrom_radius (key : CellKey) : (a.dropFrom key id).radius = a.radius := by
  unfold dropFrom; split <;> rfl

theorem cellKeyFor_eq (a : AOI) (pos : Vector3) : a.cellKeyFor pos = keyFor a.cellSize pos := rfl

theorem count_appendTo (key k : CellKey) : ((a.appendTo key id).cell k).count id =
    Function.update (fun k => (a.cell k).count id) key ((a.cell key).count id + 1) k := by
  rw [cell_appendTo, Function.update_apply]
  split_ifs
  · simp [List.count_append]
  · rfl

theorem count_dropFrom (key k : CellKey) : ((a.dropFrom key id).cell k).count id =
    Function.update (fun k => (a.cell k).count id) key ((a.cell key).count id - 1) k := by
  rw [cell_dropFrom, Function.update_apply]
  split_ifs
  · exact List.count_erase_self
  · rfl

theorem picture_enter : (a.enter id pos).picture = a.picture.edit id (Presence.enter pos) := by
  refine picture_eq_edit rfl rfl rfl (fun other hne => agree_enter a pos hne) ?_
  ext1
  · exact Dict.get_set_self _ _ _
  · exact funext fun key => count_appendTo a id (a.cellKeyFor pos) key

theorem picture_leave : (a.leave id).picture = a.picture.edit id Presence.leave := by
  refine picture_eq_edit ?_ (leave_cellRange a id) (leave_cellSize a id)
    (fun other hne => agree_leave a hne) ?_
  · unfold leave
    split <;> simp
  · unfold leave Presence.leave
    rcases hpos : a.positions.get id with _ | pos
    · simp [picture, hpos]
    · simp only [picture, hpos]
      ext1
      · exact Dict.get_del_self _ _
      · exact funext fun key => count_dropFrom a id (a.cellKeyFor pos) key

theorem picture_move : (a.move id pos).picture = a.picture.edit id (Presence.move pos) := by
  rcases hpos : a.positions.get id with _ | old
  · have hmove : a.move id pos = a.enter id pos := by simp [move, hpos]
    rw [hmove, picture_enter]
    simp [Picture.edit, Presence.move, picture, hpos]
  · refine picture_eq_edit ?_ (move_cellRange a id pos) (move_cellSize a id pos)
      (fun other hne => agree_move a pos hne) ?_
    · simp only [move, hpos]
      split_ifs
      · rfl
      · exact dropFrom_radius a id _
    · by_cases hkey : keyFor a.cellSize old = keyFor a.cellSize pos
      · have hmove : a.move id pos = a.setPosition id pos := by simp [move, hpos, cellKeyFor_eq, hkey]
        rw [hmove]
        ext1
        · simp [picture, setPosition, Presence.move, hpos, hkey]
        · simp [picture, Presence.move, hpos, hkey]
      · have hmove : a.move id pos = ((a.dropFrom (keyFor a.cellSize old) id).appendTo
            (keyFor a.cellSize pos) id).setPosition id pos := by
          simp [move, hpos, cellKeyFor_eq, hkey]
        rw [hmove]
        ext1
        · simp [picture, setPosition, Presence.move, Presence.enter, hpos, hkey]
        · funext key
          simp only [picture, cell_setPosition, count_appendTo, count_dropFrom, Presence.move,
            Presence.enter, Presence.leave, hpos, hkey, if_false]

end Operations

/-! ## Queries -/

section Queries

variable {a b : AOI}

theorem mem_query_iff (a : AOI) (pos : Vector3) (id : EntityID) :
    id ∈ a.query pos ↔ ∃ key : CellKey, |key.x - (keyFor a.cellSize pos).x| ≤ a.cellRange ∧
      |key.y - (keyFor a.cellSize pos).y| ≤ a.cellRange ∧ 0 < (a.picture.presence id).listed key := by
  simp only [mem_query, mem_window, cellKeyFor_eq, picture, List.count_pos_iff, and_assoc]

theorem mem_seen (a : AOI) (center : Vector3) (radius : ℚ) (id : EntityID) :
    id ∈ a.picture.seen center radius ↔ id ∈ a.entitiesInRange center radius := by
  rw [mem_entitiesInRange, mem_query_iff]
  rfl

/-- A query sorts what it finds, so that it depends on the picture only. -/
theorem query_eq_of_picture (h : a.picture = b.picture) (pos : Vector3) :
    a.query pos = b.query pos := by
  have hmem : ∀ id, id ∈ a.query pos ↔ id ∈ b.query pos := by
    intro id
    rw [mem_query_iff, mem_query_iff, h, show a.cellSize = b.cellSize from congrArg Picture.cellSize h,
      show a.cellRange = b.cellRange from congrArg Picture.cellRange h]
  exact List.Pairwise.eq_of_mem_iff (a.query_increasing pos) (b.query_increasing pos) fun id =>
    hmem id

theorem entitiesInRange_eq_of_picture (h : a.picture = b.picture) (center : Vector3) (radius : ℚ) :
    a.entitiesInRange center radius = b.entitiesInRange center radius := by
  have hpos : a.positionOf = b.positionOf := by
    funext id
    exact congrArg (fun A => ((Picture.presence A id).position).getD Vector3.zero) h
  simp only [entitiesInRange, query_eq_of_picture h, hpos]

theorem count_eq_of_picture (h : a.picture = b.picture) : a.count = b.count := by
  have hmem : ∀ id, id ∈ a.positions.keys ↔ id ∈ b.positions.keys := by
    intro id
    rw [Dict.mem_keys_iff, Dict.mem_keys_iff]
    exact iff_of_eq (congrArg (fun A => ((Picture.presence A id).position).isSome = true) h)
  exact ((List.perm_ext_iff_of_nodup a.positions.keys_nodup b.positions.keys_nodup).mpr
    hmem).length_eq

end Queries

end SpatialServer.AOI

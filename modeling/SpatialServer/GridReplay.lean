import SpatialServer.GridRuns
import SpatialServer.GridPictures
import SpatialServer.Boundary

/-!
# Replaying a grid

Cells list identifiers in the order of their arrival, so that two interleavings
of the same calls build different lists. What a query can see is one presence
for each identifier, and a call rewrites the presence of its own identifier
only: a run is, for each identifier, the run of the calls on it. A move writes
the presence that leaving and entering would. Loading a saved grid is such a run:
it enters every saved position once, in the order in which the map is iterated.
-/
namespace SpatialServer.AOI

open Runs

namespace GridCall

def id : GridCall → EntityID
  | .enter id _ | .leave id | .move id _ => id

/-- What a call does to the presence of its identifier. -/
def effect : GridCall → ℚ → Presence → Presence
  | .enter _ pos => Presence.enter pos
  | .leave _ => Presence.leave
  | .move _ pos => Presence.move pos

/-- The calls of a run on one identifier, in their order. -/
def on (x : EntityID) (cs : List GridCall) : List GridCall := cs.filter fun c => decide (c.id = x)

theorem on_cons_self (c : GridCall) (cs : List GridCall) : on c.id (c :: cs) = c :: on c.id cs := by
  simp [on]

theorem on_cons_of_ne {x : EntityID} {c : GridCall} (h : x ≠ c.id) (cs : List GridCall) :
    on x (c :: cs) = on x cs := by
  simp [on, h.symm]

end GridCall

open GridCall

theorem picture_step (a : AOI) (c : GridCall) :
    (a.step c).picture = a.picture.edit c.id c.effect := by
  cases c with
  | enter id pos => exact picture_enter a id pos
  | leave id => exact picture_leave a id
  | move id pos => exact picture_move a id pos

/-- The parameters of a grid stay, and the presence of an identifier is what the
calls on it make of it. -/
theorem picture_exec (a : AOI) (cs : List GridCall) : (exec step a cs).picture =
    { a.picture with
      presence := fun x => (on x cs).foldl (fun p c => c.effect a.cellSize p)
        (a.picture.presence x) } := by
  induction cs generalizing a with
  | nil => rfl
  | cons c cs ih =>
    have hsize : (a.step c).cellSize = a.cellSize := by
      rw [show (a.step c).cellSize = (a.step c).picture.cellSize from rfl, picture_step]
      rfl
    rw [exec_cons, ih, hsize, picture_step]
    simp only [Picture.edit, Picture.mk.injEq, true_and]
    funext x
    by_cases hx : x = c.id
    · subst hx
      rw [Function.update_self, on_cons_self, List.foldl_cons]
      rfl
    · rw [Function.update_of_ne hx, on_cons_of_ne hx]

/-- Two runs with the same calls on each identifier build grids that no query
tells apart. -/
theorem picture_exec_congr (a : AOI) {cs ds : List GridCall} (h : ∀ x, on x cs = on x ds) :
    (exec step a cs).picture = (exec step a ds).picture := by
  rw [picture_exec, picture_exec]
  simp only [h]

/-- However the calls on different identifiers are interleaved, the grids answer
alike. -/
theorem interleavings_answer_alike (cellSize radius : ℚ) (cs ds : List GridCall)
    (h : ∀ x, on x cs = on x ds) :
    let a := exec step (new cellSize radius) cs
    let b := exec step (new cellSize radius) ds
    (∀ pos, a.query pos = b.query pos) ∧
      (∀ center r, a.entitiesInRange center r = b.entitiesInRange center r) ∧
      a.count = b.count := by
  have hpicture := picture_exec_congr (new cellSize radius) h
  exact ⟨query_eq_of_picture hpicture, entitiesInRange_eq_of_picture hpicture,
    count_eq_of_picture hpicture⟩

/-- Two interleavings, one identifier entered twice: the cell lists differ and
the answers do not. -/
theorem interleaved_entries_answer_alike :
    let cs : List GridCall :=
      [.enter "a" ⟨0, 0, 0⟩, .enter "b" ⟨1, 0, 0⟩, .enter "a" ⟨2, 0, 0⟩, .move "b" ⟨3, 0, 0⟩]
    let ds : List GridCall :=
      [.enter "b" ⟨1, 0, 0⟩, .move "b" ⟨3, 0, 0⟩, .enter "a" ⟨0, 0, 0⟩, .enter "a" ⟨2, 0, 0⟩]
    (exec step (new 100 300) cs).cell ⟨0, 0⟩ ≠ (exec step (new 100 300) ds).cell ⟨0, 0⟩ ∧
      ∀ center r, (exec step (new 100 300) cs).entitiesInRange center r =
        (exec step (new 100 300) ds).entitiesInRange center r := by
  refine ⟨by decide +kernel, (interleavings_answer_alike 100 300 _ _ fun x => ?_).2.1⟩
  by_cases ha : "a" = x
  · subst ha; decide
  · by_cases hb : "b" = x
    · subst hb; decide
    · simp [on, GridCall.id, ha, hb]

/-! ## Saving and loading -/

/-- An identifier listed where its position belongs, and an absent one nowhere. -/
def Presence.stored (cellSize : ℚ) : Option Vector3 → Presence
  | none => ⟨none, fun _ => 0⟩
  | some pos => ⟨some pos, fun key => if key = keyFor cellSize pos then 1 else 0⟩

/-- The entry that loading makes for a saved identifier. -/
def entry (positions : Dict EntityID Vector3) (id : EntityID) : Option GridCall :=
  (positions.get id).map (GridCall.enter id)

/-- Loading is a run of entries. -/
theorem deserialize_some_eq_exec (cellSize radius : ℚ) (s : SerializedAOI) (order : List EntityID) :
    deserialize cellSize radius (some s) order =
      exec step (new s.cellSize s.radius)
        ((s.positions.range order).filterMap (entry s.positions)) := by
  simp only [deserialize, exec, List.foldl_filterMap, entry]
  congr 1
  funext a id
  cases s.positions.get id <;> rfl

/-- A loop over the map makes the entry of each identifier once. -/
theorem on_filterMap_entry (positions : Dict EntityID Vector3) (order : List EntityID)
    (x : EntityID) :
    on x ((positions.range order).filterMap (entry positions)) = (entry positions x).toList := by
  have hkeep : ∀ id, (entry positions id).filter (fun c => decide (c.id = x)) =
      if id = x then entry positions x else none := by
    intro id
    unfold entry
    split_ifs with hid
    · subst hid
      cases positions.get id <;> simp [GridCall.id]
    · cases positions.get id <;> simp [GridCall.id, hid]
  have hfilter : on x ((positions.range order).filterMap (entry positions)) =
      ((positions.range order).filter (· = x)).filterMap (entry positions) := by
    rw [on, List.filter_filterMap, List.filterMap_filter]
    refine congrArg (List.filterMap · _) (funext fun id => ?_)
    rw [hkeep]
    by_cases hid : id = x <;> simp [hid]
  rw [hfilter, List.filter_eq, (positions.nodup_range order).count]
  split_ifs with hmem
  · cases hentry : entry positions x <;> simp [hentry]
  · have hnone : positions.get x = none := by simpa [Dict.mem_range_iff] using hmem
    simp [entry, hnone]

/-- A loaded grid has the saved parameters and one entry at each saved position. -/
theorem picture_deserialize (cellSize radius : ℚ) (s : SerializedAOI) (order : List EntityID) :
    (deserialize cellSize radius (some s) order).picture =
      { (new s.cellSize s.radius).picture with
        presence := fun x => .stored s.cellSize (s.positions.get x) } := by
  rw [deserialize_some_eq_exec, picture_exec]
  simp only [on_filterMap_entry, Picture.mk.injEq, true_and]
  funext x
  have hnew : (new s.cellSize s.radius).picture.presence x = ⟨none, fun _ => 0⟩ := rfl
  rw [hnew, entry]
  cases s.positions.get x with
  | none => rfl
  | some pos =>
    simp only [Option.map_some, Option.toList_some, List.foldl_cons, List.foldl_nil, effect,
      Presence.enter, Presence.stored, Presence.mk.injEq, true_and]
    exact funext fun key => Function.update_apply _ _ _ _

theorem WellPlaced.presence {a : AOI} (h : a.WellPlaced) (x : EntityID) :
    a.picture.presence x = .stored a.cellSize (a.positions.get x) := by
  rcases hget : a.positions.get x with _ | pos
  · refine Presence.ext hget (funext fun key => List.count_eq_zero.mpr fun hmem => ?_)
    simpa [hget] using h.listed key x hmem
  · exact Presence.ext hget (funext fun key => h.stored x pos hget key)

theorem WellPlaced.of_picture {a b : AOI} (h : a.WellPlaced) (heq : a.picture = b.picture) :
    b.WellPlaced := by
  have hpresence : ∀ x, b.picture.presence x = a.picture.presence x := fun x => by rw [heq]
  have hsize : b.cellSize = a.cellSize := congrArg Picture.cellSize heq.symm
  have hagree : ∀ x, Agree x a b := fun x => ⟨hsize, congrArg Presence.position (hpresence x),
    congrFun (congrArg Presence.listed (hpresence x))⟩
  refine (wellPlaced_iff b).mpr fun x => ?_
  rcases (wellPlaced_iff a).mp h x with ⟨pos, hholds⟩ | hlacks
  · exact .inl ⟨pos, (hagree x).holds hholds⟩
  · exact .inr ((hagree x).lacks hlacks)

/-! ## Moving -/

/-- On a single entry in the right cell the short way within a cell comes to the
same as taking the entry out and putting it back. -/
theorem Presence.move_stored (cellSize : ℚ) (old : Option Vector3) (newPos : Vector3) :
    (stored cellSize old).move newPos cellSize =
      enter newPos cellSize ((stored cellSize old).leave cellSize) := by
  cases old with
  | none => rfl
  | some pos =>
    by_cases hkey : keyFor cellSize pos = keyFor cellSize newPos
    · simp only [stored, move, leave, enter, hkey, if_true, Function.update_self,
        Function.update_idem, Presence.mk.injEq, true_and]
      funext key
      rw [Function.update_apply]
      split_ifs with hself <;> rfl
    · simp only [stored, move, hkey, if_false]

theorem WellPlaced.picture_move {a : AOI} (h : a.WellPlaced) (id : EntityID) (pos : Vector3) :
    (a.move id pos).picture = ((a.leave id).enter id pos).picture := by
  have hsize : (a.leave id).picture.cellSize = a.cellSize := leave_cellSize a id
  rw [AOI.picture_move, picture_enter, Picture.edit, Picture.edit, hsize, picture_leave,
    Picture.edit]
  simp only [Function.update_self, Function.update_idem]
  rw [h.presence id, show a.picture.cellSize = a.cellSize from rfl, Presence.move_stored]

/-- Moving is leaving and then entering, whether the identifier is absent, stays in
its cell or changes it: no query tells the two grids apart, and neither touches
anybody else. -/
theorem move_answers_as_leave_enter (a : AOI) (h : a.WellPlaced) (id : EntityID) (pos : Vector3) :
    let b := a.move id pos
    let c := (a.leave id).enter id pos
    b.WellPlaced ∧
      (∀ center, b.query center = c.query center) ∧
      (∀ center r, b.entitiesInRange center r = c.entitiesInRange center r) ∧
      b.count = c.count ∧
      ∀ other, other ≠ id → b.positions.get other = a.positions.get other ∧
        ∀ key, (b.cell key).count other = (a.cell key).count other := by
  have hpicture := h.picture_move id pos
  refine ⟨(h.step_iff (.move id pos)).mpr trivial, query_eq_of_picture hpicture,
    entitiesInRange_eq_of_picture hpicture, count_eq_of_picture hpicture, fun other hne => ?_⟩
  obtain ⟨-, hposition, hcount⟩ := agree_move a pos hne
  exact ⟨hposition, hcount⟩

/-- A move within a cell leaves the list in its order, leaving and entering does
not; the answers are the same. -/
theorem move_within_cell_answers_alike :
    let a := ((new 10 25).enter "a" ⟨1, 0, 0⟩).enter "b" ⟨2, 0, 0⟩
    let b := a.move "a" ⟨3, 0, 0⟩
    let c := (a.leave "a").enter "a" ⟨3, 0, 0⟩
    a.WellPlaced ∧ b.cell ⟨0, 0⟩ = ["a", "b"] ∧ c.cell ⟨0, 0⟩ = ["b", "a"] ∧
      ∀ center r, b.entitiesInRange center r = c.entitiesInRange center r := by
  have hplaced := wellPlaced_pair 10 25 (by decide : "b" ≠ "a") ⟨1, 0, 0⟩ ⟨2, 0, 0⟩
  exact ⟨hplaced, by decide +kernel, by decide +kernel,
    (move_answers_as_leave_enter _ hplaced "a" ⟨3, 0, 0⟩).2.2.1⟩

/-! ## Loading what was saved -/

/-- What a code is trusted to bring back: the parameters, and a map with the same
entries. -/
def SameSaved (s t : SerializedAOI) : Prop :=
  t.cellSize = s.cellSize ∧ t.radius = s.radius ∧ t.positions.get = s.positions.get

/-- A grid that searches as far as its parameters say, as every grid made by `new`
does, and whose lists describe its positions survives saving and loading, with
any fallback parameters and in any order of the saved map. -/
theorem saved_grid_round_trip {Bytes : Type*} (encode : SerializedAOI → Bytes)
    (decode : Bytes → Option SerializedAOI)
    (hcode : ∀ s, ∃ t, decode (encode s) = some t ∧ SameSaved s t)
    (a : AOI) (hbuilt : SameCells (new a.cellSize a.radius) a) (hsize : 0 < a.cellSize)
    (hplaced : a.WellPlaced) (cellSize radius : ℚ) (order : List EntityID) :
    let b := deserialize cellSize radius (decode (encode a.serialize)) order
    (∀ pos, b.query pos = a.query pos) ∧
      (∀ center r, b.entitiesInRange center r = a.entitiesInRange center r) ∧
      b.count = a.count ∧
      SameCells (new b.cellSize b.radius) b ∧ 0 < b.cellSize ∧ b.WellPlaced := by
  obtain ⟨t, ht, htsize, htradius, htpositions⟩ := hcode a.serialize
  have hpicture : (deserialize cellSize radius (decode (encode a.serialize)) order).picture =
      a.picture := by
    rw [ht, picture_deserialize, htsize, htradius, htpositions]
    ext1
    · rfl
    · rfl
    · exact hbuilt.2.symm
    · exact funext fun x => (hplaced.presence x).symm
  generalize deserialize cellSize radius (decode (encode a.serialize)) order = b at hpicture
  have hbsize : b.cellSize = a.cellSize := congrArg Picture.cellSize hpicture
  have hbradius : b.radius = a.radius := congrArg Picture.radius hpicture
  have hbrange : b.cellRange = a.cellRange := congrArg Picture.cellRange hpicture
  refine ⟨query_eq_of_picture hpicture, entitiesInRange_eq_of_picture hpicture,
    count_eq_of_picture hpicture, ⟨rfl, ?_⟩, hbsize ▸ hsize, hplaced.of_picture hpicture.symm⟩
  rw [hbrange, hbsize, hbradius, hbuilt.2]

/-- Two identifiers that share a cell change places in its list when the map is
iterated from the second, and the range query is as before. -/
theorem saved_grid_round_trip_reversed :
    let a := ((new 10 25).enter "a" ⟨1, 0, 0⟩).enter "b" ⟨2, 0, 0⟩
    let b := deserialize 0 0 (some a.serialize) ["b", "a"]
    a.WellPlaced ∧ b.cell ⟨0, 0⟩ = ["b", "a"] ∧ b.WellPlaced ∧
      ∀ center r, b.entitiesInRange center r = a.entitiesInRange center r := by
  have hplaced := wellPlaced_pair 10 25 (by decide : "b" ≠ "a") ⟨1, 0, 0⟩ ⟨2, 0, 0⟩
  have htrip := saved_grid_round_trip id some (fun s => ⟨s, rfl, rfl, rfl, rfl⟩) _ ⟨rfl, rfl⟩
    (by norm_num [new, enter, setPosition, appendTo]) hplaced 0 0 ["b", "a"]
  exact ⟨hplaced, by decide +kernel, htrip.2.2.2.2.2, htrip.2.1⟩

end SpatialServer.AOI

import SpatialServer.MovementFanout
import Mathlib.Data.Int.Log

/-!
# Moves in rounded arithmetic

The coordinates of the server are of type float64, and each operation on them is rounded.
The definitions here repeat those that a position update goes through with a rounding
after every operation on coordinates. A move may be announced to somebody who is out of
range then: what the square of a small difference adds to that of a large one is rounded
away. (It is so too if the compiler fuses a multiplication and the addition.)
-/
namespace SpatialServer

open Runs

/-! ## Binary64 -/

namespace Binary64

/-- The nearest integer, and of two the even one. -/
def nearestEven (q : ℚ) : ℤ :=
  if q - ⌊q⌋ < 1 / 2 then ⌊q⌋
  else if 1 / 2 < q - ⌊q⌋ then ⌊q⌋ + 1
  else if ⌊q⌋ % 2 = 0 then ⌊q⌋ else ⌊q⌋ + 1

/-- The exponent of the last of the 53 binary places of a number. -/
def lastPlace (q : ℚ) : ℤ := max (Int.log 2 |q| - 52) (-1074)

/-- The nearest number of the format. There is no infinity. -/
def round (q : ℚ) : ℚ := nearestEven (q / 2 ^ lastPlace q) * 2 ^ lastPlace q

end Binary64

/-! ## Moves -/

namespace Rounded

variable (rnd : ℚ → ℚ)

def cellKeyFor (a : AOI) (pos : Vector3) : CellKey :=
  ⟨⌊rnd (pos.x / a.cellSize)⌋, ⌊rnd (pos.z / a.cellSize)⌋⟩

def enter (a : AOI) (id : EntityID) (pos : Vector3) : AOI :=
  (a.appendTo (cellKeyFor rnd a pos) id).setPosition id pos

def move (a : AOI) (id : EntityID) (newPos : Vector3) : AOI :=
  match a.positions.get id with
  | none => enter rnd a id newPos
  | some oldPos =>
    if cellKeyFor rnd a oldPos = cellKeyFor rnd a newPos then a.setPosition id newPos
    else
      ((a.dropFrom (cellKeyFor rnd a oldPos) id).appendTo (cellKeyFor rnd a newPos) id).setPosition
        id newPos

def query (a : AOI) (pos : Vector3) : List EntityID :=
  (AOI.firstSeen ((a.window (cellKeyFor rnd a pos)).flatMap a.cell)).insertionSort (· ≤ ·)

/-- The comparison of a distance with the radius. -/
def inRange (pos center : Vector3) (radius : ℚ) : Bool :=
  let dx := rnd (pos.x - center.x)
  let dz := rnd (pos.z - center.z)
  decide (rnd (rnd (dx * dx) + rnd (dz * dz)) ≤ rnd (radius * radius))

def entitiesInRange (a : AOI) (center : Vector3) (radius : ℚ) : List EntityID :=
  (query rnd a center).filter fun id => inRange rnd (a.positionOf id) center radius

def moveOnGrid (s : Store) (id : EntityID) (pos : Vector3) : Store :=
  match s.gridRefOf id with
  | some ref => s.updateGrid ref (move rnd · id pos)
  | none => s

def observersOf (s : Store) (ref : ℕ) (id : EntityID) (pos : Vector3) : List EntityID :=
  (entitiesInRange rnd (s.grids.cell ref) pos s.aoiRadius).filter (· ≠ id)

def enqueueMove (g : Game) (id : EntityID) (pos : Vector3) : Game :=
  match g.gridRefOf id with
  | some ref =>
    g.publishAll ((observersOf rnd g.toStore ref id pos).map fun obs =>
      Game.moveEvent (g.spaceOf id) obs id pos)
  | none => g

def dispatchPositionUpdate (g : Game) (clientID : EntityID) (upd : Wire.EntityUpdate) : Game :=
  match g.entities.get clientID with
  | none => g
  | some r =>
    let e := { g.objects.cell r with position := upd.position.getD Vector3.zero }
    enqueueMove rnd (g.onStore fun s => moveOnGrid rnd (s.setObject r e) e.id e.position)
      e.id e.position

/-- Without rounding, these are the definitions of the exact model. -/
theorem dispatchPositionUpdate_id (g : Game) (clientID : EntityID) (upd : Wire.EntityUpdate) :
    dispatchPositionUpdate id g clientID upd = g.dispatchPositionUpdate clientID upd := rfl

/-- An entity at the distance of the radius in one direction, and a little off in the
other, is out of range of the origin. The square of the little is lost when it is added
to that of the radius, and the entity is told of a move to the origin. -/
theorem move_heard_out_of_range :
    let H := Host.steady Vector3.zero
    let far : Vector3 := ⟨300, 0, 1 / 2 ^ 20⟩
    let calls : List NodeCall := [.own (.assignZone ⟨"z1", "s1", ⟨0, 0⟩, 100⟩),
      .own (.addEntity { Entity.new "e1" "avatar" "" with zoneID := "z1" }),
      .own (.addEntity { Entity.new "e2" "avatar" "" with zoneID := "z1", position := far })]
    let g := exec (Game.nodeStep H) (Game.new "gs-1") calls
    let g' := dispatchPositionUpdate Binary64.round g "e1" ⟨"e1", some Vector3.zero⟩
    Formed g.toStore ∧ Indexed g.toStore ∧
      Binary64.round far.x = far.x ∧ Binary64.round far.z = far.z ∧
      (∀ p ∈ [Vector3.zero, far], cellKeyFor Binary64.round (g.grids.cell 0) p =
        (g.grids.cell 0).cellKeyFor p) ∧
      g'.eventsDropped = g.eventsDropped ∧
      g.published g' = [Game.moveEvent "s1" "e2" "e1" Vector3.zero] ∧
      (g'.entityOf "e2").map Entity.position = some far ∧
      g'.aoiRadius * g'.aoiRadius < distSq far Vector3.zero ∧
      ¬g.Announced g' "e1" Vector3.zero := by
  intro H far calls g g'
  have hadmissible : Along (Game.nodeStep H) Game.OwnAdmissible (Game.new "gs-1") calls := by
    decide +kernel
  have hpublished : g.published g' = [Game.moveEvent "s1" "e2" "e1" Vector3.zero] := by
    decide +kernel
  have hfar : (g'.entityOf "e2").map Entity.position = some far := by decide +kernel
  have hdist : g'.aoiRadius * g'.aoiRadius < distSq far Vector3.zero := by decide +kernel
  refine ⟨Game.formed_exec H "gs-1" _, (Game.coherent_nodeExec H "gs-1" hadmissible).indexed,
    by decide +kernel, by decide +kernel, by decide +kernel, by decide +kernel, hpublished, hfar,
    hdist, ?_⟩
  rintro ⟨e, -, -, htold⟩
  obtain ⟨o, ho, hpos⟩ := Option.map_eq_some_iff.mp hfar
  have hnobody := htold "e2" o ho
  rw [hpublished, if_neg fun hin => hdist.not_ge (hpos ▸ hin.2.2)] at hnobody
  cases hnobody

end Rounded

end SpatialServer

import SpatialServer.Containers
import Mathlib.Data.Rat.Floor

/-!
# Identifiers, zones, entities and their autonomous behaviours

Identifiers are strings, as in the wire format. Coordinates are exact
rationals. Times are nanoseconds since the zero time and durations are
differences of times. The trigonometric functions and the random generator of
the host are parameters: a behaviour uses their results and nothing else about
them.
-/
namespace SpatialServer

abbrev EntityID := String
abbrev ZoneID := String
abbrev RuntimeID := String
abbrev ServerID := String
abbrev OwnerID := String
abbrev Time := ℤ
abbrev Duration := ℤ

/-- The sentinel errors of the repository. -/
inductive Err where
  | notFound
  | conflict
  | invalidArg
  | notOwned
  | notEmpty
  deriving DecidableEq, Repr

def Err.text : Err → String
  | .notFound => "not found"
  | .conflict => "conflict"
  | .invalidArg => "invalid argument"
  | .notOwned => "not owned"
  | .notEmpty => "not empty"

/-- A sentinel error under the text of its context. -/
structure Failure where
  text : String
  cause : Err
  deriving DecidableEq, Repr

def Err.wrap (context : String) (e : Err) : Failure := ⟨context ++ ": " ++ e.text, e⟩

def second : Duration := 1000000000

def seconds (d : Duration) : ℚ := (d : ℚ) / second

structure Vector3 where
  x : ℚ
  y : ℚ
  z : ℚ
  deriving DecidableEq, Repr, Inhabited

/-- The zero value, which is also what a nil position message reads as. -/
def Vector3.zero : Vector3 := ⟨0, 0, 0⟩

/-- Squared distance in the horizontal plane, the only distance the area of
interest ever measures. -/
def distSq (p q : Vector3) : ℚ := (p.x - q.x) * (p.x - q.x) + (p.z - q.z) * (p.z - q.z)

structure GridCoord where
  x : ℤ
  y : ℤ
  deriving DecidableEq, Repr

/-- Status and owner of a zone are room-service data; the game server reads the
identity, the Space, the grid cell and the size. -/
structure Zone where
  id : ZoneID
  runtimeID : RuntimeID
  grid : GridCoord
  size : ℚ
  deriving DecidableEq, Repr

structure Numerics where
  sin : ℚ → ℚ
  cos : ℚ → ℚ
  /-- The generator state made from a seed. -/
  newRand : ℤ → ℕ
  /-- The next number in `[0, 1)` and the generator state after it. -/
  float64 : ℕ → ℚ × ℕ

/-- The double nearest to the circle constant. -/
def mathPi : ℚ := 884279719003555 / 281474976710656

inductive Behavior where
  | patrol (speed : ℚ) (waypoints : List Vector3) (target : ℕ)
  | idle (bobAmplitude bobFreq phase : ℚ)
  | wander (origin : Vector3) (radius speed : ℚ) (rng : Option ℕ) (target : Vector3)
      (pause : Duration)
  deriving DecidableEq, Repr

/-- The coordinate after one step toward the target, and whether it moved. -/
def moveAxis (pos target delta : ℚ) : ℚ × Bool :=
  if pos = target then (pos, false)
  else if |target - pos| ≤ delta then (target, true)
  else if target > pos then (pos + delta, true)
  else (pos - delta, true)

structure Stepped where
  position : Vector3
  behavior : Behavior
  moved : Bool

/-- A random point of the disc, drawn as angle and radius. -/
def wanderTarget (N : Numerics) (origin : Vector3) (radius : ℚ) (rng : ℕ) : Vector3 × ℕ :=
  let a := N.float64 rng
  let r := N.float64 a.2
  let angle := a.1 * 2 * mathPi
  (⟨origin.x + r.1 * radius * N.cos angle, 0, origin.z + r.1 * radius * N.sin angle⟩, r.2)

def Behavior.step (N : Numerics) (seed : ℤ) (b : Behavior) (pos : Vector3) (dt : Duration) :
    Stepped :=
  match b with
  | .patrol speed waypoints target =>
    match waypoints[target]? with
    | none => ⟨pos, b, false⟩
    | some wp =>
      let delta := speed * seconds dt
      let p : Vector3 := ⟨(moveAxis pos.x wp.x delta).1, pos.y, (moveAxis pos.z wp.z delta).1⟩
      let target' := if p.x = wp.x ∧ p.z = wp.z then (target + 1) % waypoints.length else target
      ⟨p, .patrol speed waypoints target', true⟩
  | .idle amplitude freq phase =>
    let phase' := phase + freq * seconds dt
    ⟨⟨pos.x, amplitude * N.sin phase', pos.z⟩, .idle amplitude freq phase', false⟩
  | .wander origin radius speed rng target pause =>
    let rng := rng.getD (N.newRand seed)
    if pause > 0 then ⟨pos, .wander origin radius speed (some rng) target (pause - dt), false⟩
    else
      let drawn := if target = Vector3.zero then wanderTarget N origin radius rng else (target, rng)
      let goal := drawn.1
      let delta := speed * seconds dt
      let mx := moveAxis pos.x goal.x delta
      -- the disjunction short-circuits: the Z axis is stepped only when X stood still
      let mz := if mx.2 then (pos.z, false) else moveAxis pos.z goal.z delta
      let p : Vector3 := ⟨mx.1, pos.y, mz.1⟩
      if mx.2 || mz.2 then ⟨p, .wander origin radius speed (some drawn.2) goal pause, true⟩
      else ⟨p, .wander origin radius speed (some drawn.2) Vector3.zero (second / 2), true⟩

/-- The one lifecycle of the repository; its other hooks are empty. -/
structure NPCLifecycle where
  behavior : Option Behavior
  deriving DecidableEq, Repr

/-- The hook of the base lifecycle, which does nothing. -/
def NPCLifecycle.onAction (l : NPCLifecycle) (_action : String) (_payload : List UInt8) :
    NPCLifecycle := l

structure Entity where
  id : EntityID
  type : String
  position : Vector3
  attrs : Dict String (List UInt8)
  zoneID : ZoneID
  ownerID : OwnerID
  runtimeID : RuntimeID
  lifecycle : Option NPCLifecycle

/-- A new entity sits at the origin, in no zone, owned by nobody. -/
def Entity.new (id : EntityID) (type : String) (runtimeID : RuntimeID) : Entity :=
  ⟨id, type, Vector3.zero, ∅, "", "", runtimeID, none⟩

instance : Inhabited Entity := ⟨Entity.new "" "" ""⟩

/-- One simulated step of the entity's lifecycle, if it has one. -/
def Entity.onSimulate (N : Numerics) (seed : ℤ) (dt : Duration) (e : Entity) : Entity :=
  match e.lifecycle with
  | some ⟨some b⟩ =>
    let s := b.step N seed e.position dt
    { e with position := s.position, lifecycle := some ⟨some s.behavior⟩ }
  | _ => e

@[simp] theorem onSimulate_id (N : Numerics) (seed : ℤ) (dt : Duration) (e : Entity) :
    (e.onSimulate N seed dt).id = e.id := by
  unfold Entity.onSimulate
  split <;> rfl

@[simp] theorem onSimulate_runtimeID (N : Numerics) (seed : ℤ) (dt : Duration) (e : Entity) :
    (e.onSimulate N seed dt).runtimeID = e.runtimeID := by
  unfold Entity.onSimulate
  split <;> rfl

/-- Local replicas are named by the suffix `_ghost`, remote ones by `@ghost`. -/
def localGhostID (id : EntityID) : EntityID := id ++ "_ghost"

def remoteGhostID (id : EntityID) : EntityID := id ++ "@ghost"

/-- What replicas are named after can be read off their names. -/
theorem append_injective (ending : String) :
    Function.Injective fun id : EntityID => id ++ ending := by
  intro id id' h
  have hlist := congrArg String.toList h
  simp only [String.toList_append] at hlist
  exact String.toList_inj.mp (List.append_cancel_right hlist)

theorem localGhostID_injective : Function.Injective localGhostID := append_injective "_ghost"

theorem remoteGhostID_injective : Function.Injective remoteGhostID := append_injective "@ghost"

/-- The identifier could be that of a replica. -/
def isGhostID (id : EntityID) : Bool :=
  "_ghost".toList.isSuffixOf id.toList || "@ghost".toList.isSuffixOf id.toList

@[simp] theorem isGhostID_localGhostID (id : EntityID) : isGhostID (localGhostID id) = true := by
  simp [isGhostID, localGhostID]

@[simp] theorem isGhostID_remoteGhostID (id : EntityID) : isGhostID (remoteGhostID id) = true := by
  simp [isGhostID, remoteGhostID]

theorem remoteGhostID_ne_localGhostID (x y : EntityID) : remoteGhostID x ≠ localGhostID y := by
  intro h
  have hlist := congrArg String.toList h
  simp only [remoteGhostID, localGhostID, String.toList_append] at hlist
  have hends := List.append_inj_right' hlist (by decide +kernel)
  exact absurd hends (by decide +kernel)

/-- The identifier ends as those of remote replicas do. -/
def EndsInGhost (id : EntityID) : Prop := "@ghost".toList <:+ id.toList

theorem endsInGhost_iff (id : EntityID) : EndsInGhost id ↔ ∃ x, id = remoteGhostID x := by
  constructor
  · rintro ⟨front, hfront⟩
    refine ⟨String.ofList front, String.toList_inj.mp ?_⟩
    rw [remoteGhostID, String.toList_append, String.toList_ofList, hfront]
  · rintro ⟨x, rfl⟩
    exact ⟨x.toList, by rw [remoteGhostID, String.toList_append]⟩

end SpatialServer

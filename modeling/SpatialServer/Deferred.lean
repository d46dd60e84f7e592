import Mathlib.Tactic

/-!
# Functions with deferred calls

The body of a function defers calls as it goes and ends with a return or with a
panic. Then the deferred calls run, the last one first, however the body ended.
Each of them sees the panic in progress; it may stop it, let it pass or start one
of its own, which takes the place of the first.

The result is fixed by the return. A panic before it leaves the zero value of the
result, and that is what the caller gets if a deferred call stops the panic.
-/
namespace SpatialServer.Deferred

variable {σ ε ρ α β : Type}

/-- How a part of a body ends: it goes on, or the function is left. -/
inductive Ending (ρ ε α : Type) where
  | next (a : α)
  | returned (r : ρ)
  | panicked (e : ε)

/-- A deferred call maps the state and the panic in progress to those after it. -/
abbrev Cleanup (σ ε : Type) := σ → Option ε → σ × Option ε

/-- A function in progress, with what it has deferred, the last one first. -/
structure Frame (σ ε : Type) where
  state : σ
  deferred : List (Cleanup σ ε)

def Body (σ ε ρ α : Type) := Frame σ ε → Ending ρ ε α × Frame σ ε

namespace Body

/-- The rest of the body runs only if the part before it goes on. -/
def andThen (k : α → Body σ ε ρ β) : Ending ρ ε α × Frame σ ε → Ending ρ ε β × Frame σ ε
  | (.next a, f) => k a f
  | (.returned r, f) => (.returned r, f)
  | (.panicked e, f) => (.panicked e, f)

instance : Monad (Body σ ε ρ) where
  pure a f := (.next a, f)
  bind x k f := andThen k (x f)

def modify (g : σ → σ) : Body σ ε ρ Unit := fun f => (.next (), { f with state := g f.state })

def defer (c : Cleanup σ ε) : Body σ ε ρ Unit := fun f =>
  (.next (), { f with deferred := c :: f.deferred })

def ret (r : ρ) : Body σ ε ρ α := fun f => (.returned r, f)

def raise (e : ε) : Body σ ε ρ α := fun f => (.panicked e, f)

variable {x : Body σ ε ρ α} {k : α → Body σ ε ρ β} {f f' : Frame σ ε}

@[simp] theorem modify_bind (g : σ → σ) (k : Unit → Body σ ε ρ β) (f : Frame σ ε) :
    (modify g >>= k) f = k () { f with state := g f.state } := rfl

@[simp] theorem defer_bind (c : Cleanup σ ε) (k : Unit → Body σ ε ρ β) (f : Frame σ ε) :
    (defer c >>= k) f = k () { f with deferred := c :: f.deferred } := rfl

theorem bind_of_next {a : α} (h : x f = (.next a, f')) : (x >>= k) f = k a f' := by
  change andThen k (x f) = _
  rw [h]
  rfl

theorem bind_of_panicked {e : ε} (h : x f = (.panicked e, f')) :
    (x >>= k) f = (.panicked e, f') := by
  change andThen k (x f) = _
  rw [h]
  rfl

end Body

namespace Cleanup

/-- A deferred call that lets a panic pass. -/
def plain (g : σ → σ) : Cleanup σ ε := fun s p => (g s, p)

/-- A deferred call that may panic itself. -/
def guarded (g : σ → σ × Option ε) : Cleanup σ ε := fun s p => ((g s).1, (g s).2.or p)

/-- A deferred call that stops the panic in progress, if there is one. -/
def recovering (g : ε → σ → σ) : Cleanup σ ε
  | s, none => (s, none)
  | s, some e => (g e s, none)

end Cleanup

/-- The deferred calls run one after the other. -/
def unwind : List (Cleanup σ ε) → σ → Option ε → σ × Option ε
  | [], s, p => (s, p)
  | c :: cs, s, p => unwind cs (c s p).1 (c s p).2

theorem unwind_append (cs ds : List (Cleanup σ ε)) (s : σ) (p : Option ε) :
    unwind (cs ++ ds) s p = unwind ds (unwind cs s p).1 (unwind cs s p).2 := by
  induction cs generalizing s p with
  | nil => rfl
  | cons c cs ih => exact ih _ _

/-- What the caller gets, and the state that is left. -/
def call (zero : ρ) (body : Body σ ε ρ ρ) (s : σ) : Except ε ρ × σ :=
  match body ⟨s, []⟩ with
  | (.next r, f) | (.returned r, f) => leave r (unwind f.deferred f.state none)
  | (.panicked e, f) => leave zero (unwind f.deferred f.state (some e))
where
  leave (r : ρ) : σ × Option ε → Except ε ρ × σ
    | (s, none) => (.ok r, s)
    | (s, some e) => (.error e, s)

end SpatialServer.Deferred

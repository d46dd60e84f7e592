import Mathlib.Data.List.Perm.Basic

/-!
# Loops in any order

A loop folds a step over the keys that it visits. If the steps of different keys
commute, the order of the keys does not matter; if every step of one loop
commutes with every step of another, the two loops may change places. It is
enough that the steps commute in the states that satisfy an invariant of them.
-/
namespace SpatialServer.Reordering

variable {S K L : Type*} {I : S → Prop}

theorem foldl_invariant {step : S → K → S} {ks : List K}
    (hkeep : ∀ k ∈ ks, ∀ s, I s → I (step s k)) {s : S} (hs : I s) : I (ks.foldl step s) :=
  List.foldlRecOn ks step hs fun s hs k hk => hkeep k hk s hs

theorem foldl_perm {step : S → K → S} {ks ks' : List K} (hperm : ks.Perm ks')
    (hkeep : ∀ k ∈ ks, ∀ s, I s → I (step s k))
    (hcomm : ∀ a ∈ ks, ∀ b ∈ ks, a ≠ b → ∀ s, I s → step (step s a) b = step (step s b) a)
    {s : S} (hs : I s) : ks.foldl step s = ks'.foldl step s := by
  induction hperm generalizing s with
  | nil => rfl
  | cons k _ ih =>
    exact ih (fun a ha => hkeep a (List.mem_cons_of_mem k ha))
      (fun a ha b hb => hcomm a (List.mem_cons_of_mem k ha) b (List.mem_cons_of_mem k hb))
      (hkeep k List.mem_cons_self s hs)
  | swap a b ks =>
    simp only [List.foldl_cons]
    by_cases hab : b = a
    · rw [hab]
    · rw [hcomm b List.mem_cons_self a (List.mem_cons_of_mem b List.mem_cons_self) hab s hs]
  | trans h₁ _ ih₁ ih₂ =>
    have hmem := fun k => h₁.mem_iff (a := k)
    exact (ih₁ hkeep hcomm hs).trans (ih₂ (fun k hk => hkeep k ((hmem k).mpr hk))
      (fun a ha b hb => hcomm a ((hmem a).mpr ha) b ((hmem b).mpr hb)) hs)

section TwoLoops

variable {f : S → K → S} {g : S → L → S} {ks : List K} {ls : List L}

/-- A step passes a loop. -/
theorem foldl_step_comm (hkeep : ∀ l ∈ ls, ∀ s, I s → I (g s l)) {k : K}
    (hcomm : ∀ l ∈ ls, ∀ s, I s → f (g s l) k = g (f s k) l) {s : S} (hs : I s) :
    f (ls.foldl g s) k = ls.foldl g (f s k) := by
  induction ls generalizing s with
  | nil => rfl
  | cons l ls ih =>
    rw [List.foldl_cons, List.foldl_cons, ← hcomm l List.mem_cons_self s hs]
    exact ih (fun m hm => hkeep m (List.mem_cons_of_mem l hm))
      (fun m hm => hcomm m (List.mem_cons_of_mem l hm)) (hkeep l List.mem_cons_self s hs)

/-- A loop passes another. -/
theorem foldl_foldl_comm (hkeep : ∀ k ∈ ks, ∀ s, I s → I (f s k))
    (hkeep' : ∀ l ∈ ls, ∀ s, I s → I (g s l))
    (hcomm : ∀ k ∈ ks, ∀ l ∈ ls, ∀ s, I s → f (g s l) k = g (f s k) l) {s : S} (hs : I s) :
    ks.foldl f (ls.foldl g s) = ls.foldl g (ks.foldl f s) := by
  induction ks generalizing s with
  | nil => rfl
  | cons k ks ih =>
    rw [List.foldl_cons, List.foldl_cons,
      foldl_step_comm hkeep' (fun l hl => hcomm k List.mem_cons_self l hl) hs]
    exact ih (fun a ha => hkeep a (List.mem_cons_of_mem k ha))
      (fun a ha => hcomm a (List.mem_cons_of_mem k ha)) (hkeep k List.mem_cons_self s hs)

end TwoLoops

end SpatialServer.Reordering

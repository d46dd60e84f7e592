import SpatialServer.Runs

/-!
# Programs of atomic statements

A client of a shared store issues statements one at a time and decides by the
reply what to do next. A program is the tree of these decisions: it has returned,
or it issues a statement and continues with the reply. Every branch is finite,
so a program that is not starved returns.

What a statement does is a parameter: a function of the store, of a choice of
the environment (failures, clocks, row orders) and of the statement. Run alone, a
program is reasoned about by its weakest precondition over all allowed choices;
run with others, a pool of programs shares the store, and a schedule says who
issues the next statement.
-/
namespace SpatialServer.Statements

open Runs

inductive Prog (Op : Type) (Res : Op → Type) (α : Type) where
  | done (a : α)
  | step (op : Op) (k : Res op → Prog Op Res α)

variable {Op : Type} {Res : Op → Type} {S C α β : Type}

namespace Prog

def bind : Prog Op Res α → (α → Prog Op Res β) → Prog Op Res β
  | .done a, f => f a
  | .step op k, f => .step op fun r => (k r).bind f

instance : Monad (Prog Op Res) where
  pure := .done
  bind := .bind

/-- Issue one statement and return its reply. -/
def query (op : Op) : Prog Op Res (Res op) := .step op .done

@[simp] theorem pure_eq (a : α) : (pure a : Prog Op Res α) = .done a := rfl

@[simp] theorem bind_done (a : α) (f : α → Prog Op Res β) : (Prog.done a).bind f = f a := rfl

/-- What the program has returned, once it has. -/
def result : Prog Op Res α → Option α
  | .done a => some a
  | .step _ _ => none

@[simp] theorem result_done (a : α) : (.done a : Prog Op Res α).result = some a := rfl

@[simp] theorem result_step (op : Op) (k : Res op → Prog Op Res α) :
    (Prog.step op k).result = none := rfl

theorem result_eq_some {p : Prog Op Res α} {a : α} : p.result = some a ↔ p = .done a := by
  cases p <;> simp

/-- The statement the program issues next. -/
def next : Prog Op Res α → Option Op
  | .done _ => none
  | .step op _ => some op

/-- Run the body for every element and collect what the bodies return. -/
def collect (f : β → Prog Op Res (List α)) : List β → Prog Op Res (List α)
  | [] => .done []
  | x :: xs => do
    let a ← f x
    let as ← collect f xs
    return a ++ as

/-- Every statement that the program may come to issue is of the given kind. -/
def Only (P : Op → Prop) : Prog Op Res α → Prop
  | .done _ => True
  | .step op k => P op ∧ ∀ r, Only P (k r)

theorem Only.bind {P : Op → Prop} {p : Prog Op Res α} {f : α → Prog Op Res β} (hp : p.Only P)
    (hf : ∀ a, (f a).Only P) : (p >>= f).Only P := by
  induction p with
  | done a => exact hf a
  | step op k ih => exact ⟨hp.1, fun r => ih r (hp.2 r)⟩

theorem Only.mono {P P' : Op → Prop} (himp : ∀ op, P op → P' op) {p : Prog Op Res α}
    (hp : p.Only P) : p.Only P' := by
  induction p with
  | done a => trivial
  | step op k ih => exact ⟨himp op hp.1, fun r => ih r (hp.2 r)⟩

theorem Only.collect {P : Op → Prop} {f : β → Prog Op Res (List α)} {xs : List β}
    (hf : ∀ x ∈ xs, (f x).Only P) : (collect f xs).Only P := by
  induction xs with
  | nil => trivial
  | cons x xs ih =>
    refine (hf x (by simp)).bind fun a => ?_
    exact (ih fun y hy => hf y (by simp [hy])).bind fun _ => trivial

/-- Whatever the replies are, the program returns such a value. -/
def Returns (P : α → Prop) : Prog Op Res α → Prop
  | .done a => P a
  | .step _ k => ∀ r, Returns P (k r)

theorem Returns.bind {P : β → Prop} {p : Prog Op Res α} {f : α → Prog Op Res β}
    (h : p.Returns fun a => (f a).Returns P) : (p >>= f).Returns P := by
  induction p with
  | done a => exact h
  | step op k ih => exact fun r => ih r (h r)

theorem Returns.of_forall {P : α → Prop} (h : ∀ a, P a) (p : Prog Op Res α) : p.Returns P := by
  induction p with
  | done a => exact h a
  | step op k ih => exact ih

theorem Returns.mono {P P' : α → Prop} (himp : ∀ a, P a → P' a) {p : Prog Op Res α}
    (h : p.Returns P) : p.Returns P' := by
  induction p with
  | done a => exact himp a h
  | step op k ih => exact fun r => ih r (h r)

/-- As long as the replies are truthful, the program issues only statements of the
given kind and returns such a value. -/
def Guarantees (T : (op : Op) → Res op → Prop) (P : Op → Prop) (Q : α → Prop) :
    Prog Op Res α → Prop
  | .done a => Q a
  | .step op k => P op ∧ ∀ r, T op r → Guarantees T P Q (k r)

section Guarantees

variable {T : (op : Op) → Res op → Prop} {P : Op → Prop}

theorem Guarantees.bind {R : α → Prop} {Q : β → Prop} {p : Prog Op Res α}
    {f : α → Prog Op Res β} (hp : p.Guarantees T P R) (hf : ∀ a, R a → (f a).Guarantees T P Q) :
    (p >>= f).Guarantees T P Q := by
  induction p with
  | done a => exact hf a hp
  | step op k ih => exact ⟨hp.1, fun r hr => ih r (hp.2 r hr)⟩

theorem Only.guarantees {p : Prog Op Res α} (hp : p.Only P) :
    p.Guarantees T P fun _ => True := by
  induction p with
  | done a => trivial
  | step op k ih => exact ⟨hp.1, fun r _ => ih r (hp.2 r)⟩

/-- What every body returns, the loop collects. -/
theorem Guarantees.collect {Q : α → Prop} {f : β → Prog Op Res (List α)}
    (hf : ∀ x, (f x).Guarantees T P fun as => ∀ a ∈ as, Q a) (xs : List β) :
    (collect f xs).Guarantees T P fun as => ∀ a ∈ as, Q a := by
  induction xs with
  | nil => exact fun a ha => absurd ha List.not_mem_nil
  | cons x xs ih =>
    refine (hf x).bind fun as has => ih.bind fun as' has' a ha => ?_
    exact (List.mem_append.mp ha).elim (has a) (has' a)

end Guarantees

/-! ## Running alone -/

section Alone

variable (sem : S → C → (op : Op) → Res op × S) (ok : S → Op → C → Prop)

/-- The environment supplies one choice per statement. -/
def run : Prog Op Res α → S → (ℕ → C) → α × S
  | .done a, s, _ => (a, s)
  | .step op k, s, cs =>
    run (k (sem s (cs 0) op).1) (sem s (cs 0) op).2 fun n => cs (n + 1)

/-- Every choice that is used is allowed for its statement. -/
def Allowed : Prog Op Res α → S → (ℕ → C) → Prop
  | .done _, _, _ => True
  | .step op k, s, cs => ok s op (cs 0) ∧
    Allowed (k (sem s (cs 0) op).1) (sem s (cs 0) op).2 fun n => cs (n + 1)

/-- Whatever allowed choices the environment makes, the program returns a value
and leaves a store that satisfy the postcondition. -/
def wp : Prog Op Res α → (α → S → Prop) → S → Prop
  | .done a, Q, s => Q a s
  | .step op k, Q, s => ∀ c, ok s op c → wp (k (sem s c op).1) Q (sem s c op).2

variable {sem ok}

theorem wp_bind (p : Prog Op Res α) (f : α → Prog Op Res β) (Q : β → S → Prop) (s : S) :
    wp sem ok (p >>= f) Q s ↔ wp sem ok p (fun a s' => wp sem ok (f a) Q s') s := by
  induction p generalizing s with
  | done a => exact Iff.rfl
  | step op k ih => exact forall₂_congr fun c _ => ih (sem s c op).1 (sem s c op).2

theorem wp_mono {p : Prog Op Res α} {Q Q' : α → S → Prop} (himp : ∀ a s, Q a s → Q' a s) {s : S}
    (h : wp sem ok p Q s) : wp sem ok p Q' s := by
  induction p generalizing s with
  | done a => exact himp a s h
  | step op k ih => exact fun c hc => ih (sem s c op).1 (h c hc)

/-- The loop rule: an invariant of the elements still to come. -/
theorem wp_collect {f : β → Prog Op Res (List α)} {I : List β → S → Prop}
    (hstep : ∀ x xs s, I (x :: xs) s → wp sem ok (f x) (fun _ s' => I xs s') s)
    (xs : List β) (s : S) (h : I xs s) : wp sem ok (collect f xs) (fun _ s' => I [] s') s := by
  induction xs generalizing s with
  | nil => exact h
  | cons x xs ih =>
    rw [collect, wp_bind]
    refine wp_mono (fun a s' hs' => ?_) (hstep x xs s h)
    rw [wp_bind]
    exact wp_mono (fun _ _ hI => hI) (ih s' hs')

theorem allowed_of_forall {p : Prog Op Res α} {s : S} {cs : ℕ → C}
    (h : ∀ s op n, ok s op (cs n)) : Allowed sem ok p s cs := by
  induction p generalizing s cs with
  | done a => trivial
  | step op k ih => exact ⟨h s op 0, ih _ fun s op n => h s op (n + 1)⟩

/-- The choices that a run leaves to what comes after it. -/
def leftover (sem : S → C → (op : Op) → Res op × S) : Prog Op Res α → S → (ℕ → C) → ℕ → C
  | .done _, _, cs => cs
  | .step op k, s, cs =>
    leftover sem (k (sem s (cs 0) op).1) (sem s (cs 0) op).2 fun n => cs (n + 1)

theorem run_bind (p : Prog Op Res α) (f : α → Prog Op Res β) (s : S) (cs : ℕ → C) :
    run sem (p >>= f) s cs =
      run sem (f (run sem p s cs).1) (run sem p s cs).2 (leftover sem p s cs) := by
  induction p generalizing s cs with
  | done a => rfl
  | step op k ih => exact ih _ _ _

theorem allowed_bind (p : Prog Op Res α) (f : α → Prog Op Res β) (s : S) (cs : ℕ → C) :
    Allowed sem ok (p >>= f) s cs ↔ Allowed sem ok p s cs ∧
      Allowed sem ok (f (run sem p s cs).1) (run sem p s cs).2 (leftover sem p s cs) := by
  induction p generalizing s cs with
  | done a => exact (iff_of_eq (true_and _)).symm
  | step op k ih => exact (and_congr_right fun _ => ih _ _ _).trans and_assoc.symm

/-- Two conditions that agree on the body of a loop agree on the loop. -/
theorem allowed_collect_congr {f : β → Prog Op Res (List α)} {A B : S → Op → C → Prop}
    (hbody : ∀ x s cs, Allowed sem ok (f x) s cs → (Allowed sem A (f x) s cs ↔
      Allowed sem B (f x) s cs)) {xs : List β} {s : S} {cs : ℕ → C}
    (h : Allowed sem ok (collect f xs) s cs) :
    Allowed sem A (collect f xs) s cs ↔ Allowed sem B (collect f xs) s cs := by
  induction xs generalizing s cs with
  | nil => rfl
  | cons x xs ih =>
    simp only [collect, allowed_bind] at h ⊢
    rw [hbody x s cs h.1, ih h.2.1]
    rfl

/-- What the body returns under a condition, the loop collects. -/
theorem forall_mem_run_collect {f : β → Prog Op Res (List α)} {P : α → Prop}
    (hbody : ∀ x s cs, Allowed sem ok (f x) s cs → ∀ a ∈ (run sem (f x) s cs).1, P a)
    {xs : List β} {s : S} {cs : ℕ → C} (h : Allowed sem ok (collect f xs) s cs) :
    ∀ a ∈ (run sem (collect f xs) s cs).1, P a := by
  induction xs generalizing s cs with
  | nil => simp [collect, run]
  | cons x xs ih =>
    simp only [collect, allowed_bind] at h
    simp only [collect, run_bind, pure_eq, run, List.mem_append]
    rintro a (ha | ha)
    · exact hbody x s cs h.1 a ha
    · exact ih h.2.1 a ha

/-- The weakest precondition is about actual runs. -/
theorem wp_run {p : Prog Op Res α} {Q : α → S → Prop} {s : S} {cs : ℕ → C}
    (h : wp sem ok p Q s) (hcs : Allowed sem ok p s cs) :
    Q (run sem p s cs).1 (run sem p s cs).2 := by
  induction p generalizing s cs with
  | done a => exact h
  | step op k ih => exact ih _ (h (cs 0) hcs.1) hcs.2

end Alone

end Prog

/-! ## Running with others -/

structure Pool (Op : Type) (Res : Op → Type) (S α : Type) where
  store : S
  threads : ℕ → Prog Op Res α

namespace Pool

variable (sem : S → C → (op : Op) → Res op × S)

/-- The scheduled thread issues its next statement; a returned thread does
nothing any more. -/
def step (p : Pool Op Res S α) (ev : ℕ × C) : Pool Op Res S α :=
  match p.threads ev.1 with
  | .done _ => p
  | .step op k =>
    ⟨(sem p.store ev.2 op).2, Function.update p.threads ev.1 (k (sem p.store ev.2 op).1)⟩

variable {sem}

theorem step_of_done {p : Pool Op Res S α} {ev : ℕ × C} {a : α}
    (h : p.threads ev.1 = .done a) : step sem p ev = p := by
  simp [step, h]

theorem step_of_step {p : Pool Op Res S α} {ev : ℕ × C} {op : Op} {k : Res op → Prog Op Res α}
    (h : p.threads ev.1 = .step op k) : step sem p ev =
      ⟨(sem p.store ev.2 op).2, Function.update p.threads ev.1 (k (sem p.store ev.2 op).1)⟩ := by
  simp [step, h]

/-- A step leaves the other threads alone. -/
theorem threads_step_ne (p : Pool Op Res S α) (ev : ℕ × C) {j : ℕ} (hj : j ≠ ev.1) :
    (step sem p ev).threads j = p.threads j := by
  unfold step
  split
  · rfl
  · simp [hj]

/-- What is said of every thread and passes from a program to what follows its
next statement is kept by a step. -/
theorem forall_threads_step {T : ℕ → Prog Op Res α → Prop} {p : Pool Op Res S α}
    (hnext : ∀ i op k, T i (.step op k) → ∀ r, T i (k r)) (h : ∀ i, T i (p.threads i))
    (ev : ℕ × C) (i : ℕ) : T i ((step sem p ev).threads i) := by
  by_cases hi : i = ev.1
  · subst hi
    cases hthread : p.threads ev.1 with
    | done a =>
      rw [step_of_done hthread]
      exact h ev.1
    | step op k =>
      rw [step_of_step hthread]
      simpa using hnext ev.1 op k (hthread ▸ h ev.1) _
  · rw [threads_step_ne p ev hi]
    exact h i

/-- The rule for threads that rely on each other: while the store is good, the replies
are truthful and statements of the given kind keep it good, so that every thread may
count on truthful replies. -/
theorem guarantees_exec {T : (op : Op) → Res op → Prop} {P : Op → Prop} {Q : ℕ → α → Prop}
    {I : S → Prop} (hsem : ∀ s c op, I s → T op (sem s c op).1 ∧ (P op → I (sem s c op).2))
    {p : Pool Op Res S α} (hI : I p.store) (hthreads : ∀ i, (p.threads i).Guarantees T P (Q i))
    (evs : List (ℕ × C)) : I (exec (step sem) p evs).store ∧
      ∀ i, ((exec (step sem) p evs).threads i).Guarantees T P (Q i) := by
  induction evs generalizing p with
  | nil => exact ⟨hI, hthreads⟩
  | cons ev evs ih =>
    have hev := hthreads ev.1
    cases hthread : p.threads ev.1 with
    | done a =>
      rw [exec_cons, step_of_done hthread]
      exact ih hI hthreads
    | step op k =>
      rw [hthread] at hev
      obtain ⟨htrue, hkeep⟩ := hsem p.store ev.2 op hI
      rw [exec_cons, step_of_step hthread]
      refine ih (hkeep hev.1) fun i => ?_
      dsimp only
      by_cases hi : i = ev.1
      · subst hi
        rw [Function.update_self]
        exact hev.2 _ htrue
      · rw [Function.update_of_ne hi]
        exact hthreads i

/-- A thread that is not scheduled is where it was. -/
theorem threads_exec_of_forall_ne (p : Pool Op Res S α) {evs : List (ℕ × C)} {j : ℕ}
    (h : ∀ ev ∈ evs, ev.1 ≠ j) : (exec (step sem) p evs).threads j = p.threads j := by
  induction evs generalizing p with
  | nil => rfl
  | cons ev evs ih =>
    rw [exec_cons, ih _ fun ev' hev' => h ev' (by simp [hev'])]
    exact threads_step_ne p ev (Ne.symm (h ev (by simp)))

/-- What a thread has returned, it has returned for good. -/
theorem result_step_of_some {p : Pool Op Res S α} {i : ℕ} {a : α}
    (h : (p.threads i).result = some a) (ev : ℕ × C) :
    ((step sem p ev).threads i).result = some a := by
  by_cases hi : i = ev.1
  · subst hi
    rw [step_of_done (Prog.result_eq_some.mp h)]
    exact h
  · rw [threads_step_ne p ev hi]
    exact h

/-! What happens at one of a thread's own statements happens during its call. -/

section During

variable (sem) (p : Pool Op Res S α) (i : ℕ) (R : S → S → Prop)

/-- Some statement of the thread changed the store as described. -/
def During (evs : List (ℕ × C)) : Prop :=
  ∃ pre c post, evs = pre ++ (i, c) :: post ∧
    ((exec (step sem) p pre).threads i).result = none ∧
    R (exec (step sem) p pre).store (exec (step sem) p (pre ++ [(i, c)])).store

variable {sem p i R}

theorem During.append {evs : List (ℕ × C)} (h : During sem p i R evs) (evs' : List (ℕ × C)) :
    During sem p i R (evs ++ evs') := by
  obtain ⟨pre, c, post, rfl, hrun, hR⟩ := h
  exact ⟨pre, c, post ++ evs', by simp, hrun, hR⟩

theorem During.last {evs : List (ℕ × C)} {c : C} {op : Op} {k : Res op → Prog Op Res α}
    (hthread : (exec (step sem) p evs).threads i = .step op k)
    (hR : R (exec (step sem) p evs).store (sem (exec (step sem) p evs).store c op).2) :
    During sem p i R (evs ++ [(i, c)]) := by
  refine ⟨evs, c, [], rfl, by simp [hthread], ?_⟩
  rw [exec_append, exec_cons, exec_nil, step_of_step hthread]
  exact hR

end During

/-- The rule for one thread among others that may do anything: what is said of
the run and the thread is kept while others run, and by its own statements. -/
theorem thread_invariant {ok : Pool Op Res S α → ℕ × C → Prop} {p : Pool Op Res S α} {i : ℕ}
    (T : List (ℕ × C) → Prog Op Res α → Prop) (hstart : T [] (p.threads i))
    (hkeep : ∀ evs ev q, (exec (step sem) p evs).threads i = q →
      ok (exec (step sem) p evs) ev → T evs q → T (evs ++ [ev]) q)
    (hown : ∀ evs c op k, (exec (step sem) p evs).threads i = .step op k →
      ok (exec (step sem) p evs) (i, c) → T evs (.step op k) →
      T (evs ++ [(i, c)]) (k (sem (exec (step sem) p evs).store c op).1))
    {evs : List (ℕ × C)} (h : Along (step sem) ok p evs) :
    T evs ((exec (step sem) p evs).threads i) := by
  induction evs using List.reverseRecOn with
  | nil => exact hstart
  | append_singleton evs ev ih =>
    rw [along_append] at h
    have hT := ih h.1
    rw [exec_append, exec_cons, exec_nil]
    by_cases hi : i = ev.1
    · obtain ⟨j, c⟩ := ev
      subst hi
      cases hthread : (exec (step sem) p evs).threads i with
      | done a =>
        rw [step_of_done hthread]
        exact hkeep evs _ _ rfl h.2.1 hT
      | step op k =>
        rw [step_of_step hthread]
        simpa using hown evs c op k hthread h.2.1 (hthread ▸ hT)
    · rw [threads_step_ne _ _ hi]
      exact hkeep evs ev _ rfl h.2.1 hT

end Pool

end SpatialServer.Statements

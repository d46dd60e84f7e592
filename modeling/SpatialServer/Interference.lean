import SpatialServer.Statements

/-!
# Rely and guarantee

A program that shares its store is verified against everything the others may
do between two of its statements (the rely) and promises what each of its own
statements does (the guarantee). The guarantee also sees what the program
returns with a statement, so that a change can be tied to the answer that
reports it. A pool in which every guarantee is within the rely keeps every
program's postcondition, in every schedule.
-/
namespace SpatialServer.Statements

open Runs

variable {Op : Type} {Res : Op → Type} {S C α β : Type}

namespace Prog

theorem result_bind (p : Prog Op Res α) (f : α → Prog Op Res β) :
    (p >>= f).result = p.result.bind fun a => (f a).result := by
  cases p <;> rfl

section Rules

variable (sem : S → C → (op : Op) → Res op × S) (ok : S → Op → C → Prop) (rely : S → S → Prop)

def rg (guar : S → S → Option α → Prop) : Prog Op Res α → (α → S → Prop) → S → Prop
  | .done a, Q, s => ∀ s', rely s s' → Q a s'
  | .step op k, Q, s => ∀ s', rely s s' → ∀ c, ok s' op c →
    guar s' (sem s' c op).2 (k (sem s' c op).1).result ∧
      rg guar (k (sem s' c op).1) Q (sem s' c op).2

variable {sem ok rely}

/-- A program may be interrupted anywhere. -/
theorem rg_of_rely (htrans : ∀ s t u, rely s t → rely t u → rely s u)
    {guar : S → S → Option α → Prop} {p : Prog Op Res α} {Q : α → S → Prop} {s s' : S}
    (h : rg sem ok rely guar p Q s) (hs : rely s s') : rg sem ok rely guar p Q s' := by
  cases p with
  | done a => exact fun t ht => h t (htrans _ _ _ hs ht)
  | step op k => exact fun t ht => h t (htrans _ _ _ hs ht)

theorem rg_mono {guar guar' : S → S → Option α → Prop} {Q Q' : α → S → Prop}
    (hguar : ∀ s s' o, guar s s' o → guar' s s' o) (himp : ∀ a s, Q a s → Q' a s)
    {p : Prog Op Res α} {s : S} (h : rg sem ok rely guar p Q s) :
    rg sem ok rely guar' p Q' s := by
  induction p generalizing s with
  | done a => exact fun s' hs => himp a s' (h s' hs)
  | step op k ih =>
    intro s' hs c hc
    obtain ⟨hg, hk⟩ := h s' hs c hc
    exact ⟨hguar _ _ _ hg, ih _ hk⟩

theorem rg_bind (hrefl : ∀ s, rely s s) {guar : S → S → Option β → Prop} {p : Prog Op Res α}
    {f : α → Prog Op Res β} {Q : β → S → Prop} {s : S}
    (h : rg sem ok rely (fun s s' o => guar s s' (o.bind fun a => (f a).result)) p
      (fun a s' => rg sem ok rely guar (f a) Q s') s) :
    rg sem ok rely guar (p >>= f) Q s := by
  induction p generalizing s with
  | done a => exact h s (hrefl s)
  | step op k ih =>
    intro s' hs c hc
    obtain ⟨hg, hk⟩ := h s' hs c hc
    refine ⟨?_, ih _ hk⟩
    have hres : ((k (sem s' c op).1).bind f).result = _ := result_bind _ f
    rw [hres]
    exact hg

end Rules

/-- The program returns after at most so many statements. -/
def Within : Prog Op Res α → ℕ → Prop
  | .done _, _ => True
  | .step _ k, n => 0 < n ∧ ∀ r, Within (k r) (n - 1)

theorem Within.mono {p : Prog Op Res α} {m n : ℕ} (h : p.Within m) (hmn : m ≤ n) :
    p.Within n := by
  induction p generalizing m n with
  | done a => trivial
  | step op k ih => exact ⟨by have := h.1; omega, fun r => ih r (h.2 r) (by omega)⟩

theorem Within.bind {m n : ℕ} {p : Prog Op Res α} {f : α → Prog Op Res β} (hp : p.Within m)
    (hf : ∀ a, (f a).Within n) : (p >>= f).Within (m + n) := by
  induction p generalizing m with
  | done a => exact (hf a).mono (by omega)
  | step op k ih =>
    have hm := hp.1
    refine ⟨by omega, fun r => ?_⟩
    have := ih r (hp.2 r)
    exact this.mono (by omega)

theorem Within.collect {n : ℕ} {f : β → Prog Op Res (List α)} (hf : ∀ x, (f x).Within n)
    (xs : List β) : (Prog.collect f xs).Within (xs.length * n) := by
  induction xs with
  | nil => trivial
  | cons x xs ih =>
    have hrest : ∀ a, (Prog.collect f xs >>= fun as => pure (a ++ as)).Within (xs.length * n + 0) :=
      fun a => ih.bind fun _ => trivial
    refine ((hf x).bind hrest).mono ?_
    rw [List.length_cons, Nat.succ_mul]
    omega

end Prog

namespace Pool

open Prog

variable {sem : S → C → (op : Op) → Res op × S} {ok : S → Op → C → Prop} {rely : S → S → Prop}
  {guar : S → S → Option α → Prop} {Q : α → S → Prop}

/-- The choice is allowed for the statement that is due. -/
def Allows (ok : S → Op → C → Prop) (p : Pool Op Res S α) (ev : ℕ × C) : Prop :=
  ∀ op, (p.threads ev.1).next = some op → ok p.store op ev.2

/-- A step either finds its thread returned or is covered by its guarantee. -/
theorem guar_step (hrefl : ∀ s, rely s s) {p : Pool Op Res S α} {ev : ℕ × C}
    (h : rg sem ok rely guar (p.threads ev.1) Q p.store) (hev : p.Allows ok ev) :
    step sem p ev = p ∨
      guar p.store (step sem p ev).store ((step sem p ev).threads ev.1).result := by
  cases hthread : p.threads ev.1 with
  | done a => exact .inl (step_of_done hthread)
  | step op k =>
    rw [hthread] at h
    have hok : ok p.store op ev.2 := hev op (by simp [hthread, next])
    rw [step_of_step hthread]
    simpa using .inr (h p.store (hrefl _) ev.2 hok).1

theorem rg_step (hrefl : ∀ s, rely s s) (htrans : ∀ s t u, rely s t → rely t u → rely s u)
    (hguar : ∀ s s' o, guar s s' o → rely s s') {p : Pool Op Res S α} {ev : ℕ × C}
    (h : ∀ i, rg sem ok rely guar (p.threads i) Q p.store) (hev : p.Allows ok ev) (i : ℕ) :
    rg sem ok rely guar ((step sem p ev).threads i) Q (step sem p ev).store := by
  obtain hsame | hg := guar_step hrefl (h ev.1) hev
  · rw [hsame]
    exact h i
  · by_cases hi : i = ev.1
    · subst hi
      cases hthread : p.threads ev.1 with
      | done a =>
        rw [step_of_done hthread]
        exact h _
      | step op k =>
        have hown := h ev.1
        rw [hthread] at hown
        have hok : ok p.store op ev.2 := hev op (by simp [hthread, next])
        rw [step_of_step hthread]
        simpa using (hown p.store (hrefl _) ev.2 hok).2
    · rw [threads_step_ne p ev hi]
      exact rg_of_rely htrans (h i) (hguar _ _ _ hg)

/-- The rule for a store that changes in one direction only, whoever issues the
statements: each thread is verified on its own. -/
theorem rg_exec_of_sem (hrefl : ∀ s, rely s s) (htrans : ∀ s t u, rely s t → rely t u → rely s u)
    (hsem : ∀ s c op, rely s (sem s c op).2) {p : Pool Op Res S α} {i : ℕ}
    (h : rg sem (fun _ _ _ => True) rely (fun _ _ _ => True) (p.threads i) Q p.store)
    (evs : List (ℕ × C)) :
    rg sem (fun _ _ _ => True) rely (fun _ _ _ => True) ((exec (step sem) p evs).threads i) Q
      (exec (step sem) p evs).store := by
  induction evs generalizing p with
  | nil => exact h
  | cons ev evs ih =>
    rw [exec_cons]
    refine ih ?_
    cases hthread : p.threads ev.1 with
    | done a => rwa [step_of_done hthread]
    | step op k =>
      rw [step_of_step hthread]
      dsimp only
      by_cases hi : i = ev.1
      · subst hi
        rw [Function.update_self]
        rw [hthread] at h
        exact (h p.store (hrefl _) ev.2 trivial).2
      · rw [Function.update_of_ne hi]
        exact rg_of_rely htrans h (hsem _ _ _)

/-- A thread that is scheduled often enough returns. -/
theorem isSome_result_of_within {p : Pool Op Res S α} {i n : ℕ} (h : (p.threads i).Within n)
    {evs : List (ℕ × C)} (hn : n ≤ evs.countP fun ev => ev.1 = i) :
    ((exec (step sem) p evs).threads i).result.isSome := by
  induction evs generalizing p n with
  | nil =>
    cases hthread : p.threads i with
    | done a => simp [hthread]
    | step op k =>
      rw [hthread] at h
      have := h.1
      simp only [List.countP_nil] at hn
      omega
  | cons ev evs ih =>
    rw [exec_cons]
    rw [List.countP_cons] at hn
    by_cases hi : ev.1 = i
    · cases hthread : p.threads i with
      | done a =>
        rw [step_of_done (hi ▸ hthread)]
        have hzero : (p.threads i).Within 0 := by rw [hthread]; trivial
        exact ih hzero (by omega)
      | step op k =>
        rw [hthread] at h
        simp only [hi, decide_true, if_true] at hn
        rw [← hi] at hthread
        have hnext : ((step sem p ev).threads i).Within (n - 1) := by
          rw [step_of_step hthread, ← hi]
          simpa using h.2 _
        exact ih hnext (by omega)
    · have hsame : (step sem p ev).threads i = p.threads i := threads_step_ne p ev (Ne.symm hi)
      simp only [hi, decide_false, Bool.false_eq_true, if_false] at hn
      exact ih (hsame ▸ h) (by omega)

theorem within_exec {p : Pool Op Res S α} {i n : ℕ} (h : (p.threads i).Within n)
    (evs : List (ℕ × C)) : ((exec (step sem) p evs).threads i).Within n := by
  refine exec_keeps (fun q : Pool Op Res S α => (q.threads i).Within n) (fun q ev hq => ?_) h evs
  by_cases hi : i = ev.1
  · subst hi
    cases hthread : q.threads ev.1 with
    | done a => rwa [step_of_done hthread]
    | step op k =>
      rw [hthread] at hq
      rw [step_of_step hthread]
      simpa using (hq.2 _).mono (Nat.sub_le n 1)
  · rwa [threads_step_ne q ev hi]

/-- A thread that is bounded once its first reply is known returns, if it has that turn
and then so many more. -/
theorem exists_turns {p : Pool Op Res S α} {i : ℕ}
    (h : ∀ op k, p.threads i = .step op k → ∀ r, ∃ n, (k r).Within n)
    {evs : List (ℕ × C)} (hturn : ∃ ev ∈ evs, ev.1 = i) :
    ∃ n, ∀ later : List (ℕ × C), n ≤ later.countP (fun ev => ev.1 = i) →
      ((exec (step sem) p (evs ++ later)).threads i).result.isSome := by
  suffices hwithin : ∃ n, ((exec (step sem) p evs).threads i).Within n by
    obtain ⟨n, hn⟩ := hwithin
    refine ⟨n, fun later hlater => ?_⟩
    rw [exec_append]
    exact isSome_result_of_within hn hlater
  induction evs generalizing p with
  | nil => simp at hturn
  | cons ev evs ih =>
    rw [exec_cons]
    by_cases hi : i = ev.1
    · subst hi
      cases hthread : p.threads ev.1 with
      | done a =>
        refine ⟨0, within_exec ?_ evs⟩
        rw [step_of_done hthread, hthread]
        trivial
      | step op k =>
        obtain ⟨n, hn⟩ := h op k hthread (sem p.store ev.2 op).1
        refine ⟨n, within_exec ?_ evs⟩
        rw [step_of_step hthread]
        simpa using hn
    · refine ih ?_ ?_
      · rwa [threads_step_ne p ev hi]
      · obtain ⟨ev', hmem, hev'⟩ := hturn
        obtain rfl | hmem := List.mem_cons.mp hmem
        · exact absurd hev'.symm hi
        · exact ⟨ev', hmem, hev'⟩

end Pool

end SpatialServer.Statements

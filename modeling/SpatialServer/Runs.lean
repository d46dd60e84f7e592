import Mathlib.Tactic

/-!
# Runs of a deterministic step function

The environment of a system chooses calls; the system answers each with a state
change. A run is the list of the calls. What the calls are allowed to be is a
predicate on the state before the call and the call itself, required along the
run, and a property of every reachable state is an invariant kept by each
allowed call.
-/
namespace SpatialServer.Runs

variable {S C : Type*}

def exec (step : S → C → S) (s : S) (cs : List C) : S := cs.foldl step s

@[simp] theorem exec_nil (step : S → C → S) (s : S) : exec step s [] = s := rfl

@[simp] theorem exec_cons (step : S → C → S) (s : S) (c : C) (cs : List C) :
    exec step s (c :: cs) = exec step (step s c) cs := rfl

@[simp] theorem exec_append (step : S → C → S) (s : S) (cs ds : List C) :
    exec step s (cs ++ ds) = exec step (exec step s cs) ds := List.foldl_append

/-- Every call of the run is allowed in the state in which it is made. -/
def Along (step : S → C → S) (ok : S → C → Prop) : S → List C → Prop
  | _, [] => True
  | s, c :: cs => ok s c ∧ Along step ok (step s c) cs

instance decidableAlong (step : S → C → S) (ok : S → C → Prop)
    [∀ s c, Decidable (ok s c)] : ∀ s cs, Decidable (Along step ok s cs)
  | _, [] => isTrue trivial
  | s, c :: cs =>
    have := decidableAlong step ok (step s c) cs
    inferInstanceAs (Decidable (ok s c ∧ Along step ok (step s c) cs))

variable {step : S → C → S} {ok : S → C → Prop}

@[simp] theorem along_nil (s : S) : Along step ok s [] := trivial

@[simp] theorem along_cons (s : S) (c : C) (cs : List C) :
    Along step ok s (c :: cs) ↔ ok s c ∧ Along step ok (step s c) cs := Iff.rfl

@[simp] theorem along_append (s : S) (cs ds : List C) :
    Along step ok s (cs ++ ds) ↔ Along step ok s cs ∧ Along step ok (exec step s cs) ds := by
  induction cs generalizing s with
  | nil => simp
  | cons c cs ih => simp [ih, and_assoc]

/-! A run whose calls are given by other data. -/

theorem exec_map {D : Type*} (f : D → C) (s : S) (ds : List D) :
    exec step s (ds.map f) = exec (fun s d => step s (f d)) s ds := List.foldl_map

theorem along_map_iff {D : Type*} (f : D → C) (s : S) (ds : List D) :
    Along step ok s (ds.map f) ↔ Along (fun s d => step s (f d)) (fun s d => ok s (f d)) s ds := by
  induction ds generalizing s with
  | nil => rfl
  | cons d ds ih => rw [List.map_cons, along_cons, along_cons, ih]

theorem Along.mono {ok' : S → C → Prop} (himp : ∀ s c, ok s c → ok' s c) {s : S} {cs : List C}
    (h : Along step ok s cs) : Along step ok' s cs := by
  induction cs generalizing s with
  | nil => trivial
  | cons c cs ih => exact ⟨himp s c h.1, ih h.2⟩

theorem Along.and {ok' : S → C → Prop} {s : S} {cs : List C} (h : Along step ok s cs)
    (h' : Along step ok' s cs) : Along step (fun s c => ok s c ∧ ok' s c) s cs := by
  induction cs generalizing s with
  | nil => trivial
  | cons c cs ih => exact ⟨⟨h.1, h'.1⟩, ih h.2 h'.2⟩

theorem Along.of_forall_mem {s : S} {cs : List C} (h : ∀ s, ∀ c ∈ cs, ok s c) :
    Along step ok s cs := by
  induction cs generalizing s with
  | nil => trivial
  | cons c cs ih => exact ⟨h s c (by simp), ih fun s c hc => h s c (by simp [hc])⟩

/-- The invariant rule: kept by one allowed call, kept by every allowed run. -/
theorem exec_invariant (I : S → Prop) (hstep : ∀ s c, I s → ok s c → I (step s c))
    {s : S} {cs : List C} (hs : I s) (h : Along step ok s cs) : I (exec step s cs) := by
  induction cs generalizing s with
  | nil => exact hs
  | cons c cs ih => exact ih (hstep s c hs h.1) h.2

theorem exec_keeps (I : S → Prop) (hstep : ∀ s c, I s → I (step s c)) {s : S} (hs : I s)
    (cs : List C) : I (exec step s cs) :=
  List.foldlRecOn cs step hs fun s hs c _ => hstep s c hs

theorem exec_eq_self {s : S} {cs : List C} (h : ∀ c ∈ cs, step s c = s) : exec step s cs = s := by
  induction cs with
  | nil => rfl
  | cons c cs ih =>
    rw [exec_cons, h c (by simp)]
    exact ih fun d hd => h d (by simp [hd])

/-- What every step keeps and what allows every step, it allows all along a run. -/
theorem Along.of_keeps (I : S → Prop) (hok : ∀ s c, I s → ok s c)
    (hkeep : ∀ s c, I s → I (step s c)) {s : S} (hs : I s) (cs : List C) :
    Along step ok s cs := by
  induction cs generalizing s with
  | nil => trivial
  | cons c cs ih => exact ⟨hok s c hs, ih (hkeep s c hs)⟩

/-- Calls that keep an invariant meet what the invariant promises. -/
theorem Along.of_invariant {ok' : S → C → Prop} (I : S → Prop)
    (hstep : ∀ s c, I s → ok s c → ok' s c ∧ I (step s c)) {s : S} {cs : List C} (hs : I s)
    (h : Along step ok s cs) : Along step ok' s cs := by
  induction cs generalizing s with
  | nil => trivial
  | cons c cs ih => exact ⟨(hstep s c hs h.1).1, ih (hstep s c hs h.1).2 h.2⟩

/-- Where the allowed calls are exactly those that keep an invariant, a run is
allowed if and only if the invariant holds after every part of it. -/
theorem along_iff_forall_part {I : S → Prop} (hstep : ∀ s c, I s → (I (step s c) ↔ ok s c))
    {s : S} (hs : I s) (cs : List C) :
    Along step ok s cs ↔ ∀ ds, ds <+: cs → I (exec step s ds) := by
  constructor
  · intro h ds hds
    obtain ⟨rest, rfl⟩ := hds
    exact exec_invariant I (fun s c hs hc => (hstep s c hs).mpr hc) hs ((along_append _ _ _).mp h).1
  · intro h
    induction cs generalizing s with
    | nil => trivial
    | cons c cs ih =>
      have hnext : I (step s c) := h [c] ⟨cs, rfl⟩
      exact ⟨(hstep s c hs).mp hnext,
        ih hnext fun ds hds => h (c :: ds) (List.cons_prefix_cons.mpr ⟨rfl, hds⟩)⟩

/-- Where a step keeps a property exactly if the call is allowed, and never
restores it, the property at the end of a run says that all calls were. -/
theorem exec_iff_along_of_invariant {I : S → Prop} (J : S → Prop)
    (hkeep : ∀ s c, J s → J (step s c)) (hstep : ∀ s c, J s → (I (step s c) ↔ I s ∧ ok s c))
    {s : S} (hs : J s) (cs : List C) : I (exec step s cs) ↔ I s ∧ Along step ok s cs := by
  induction cs generalizing s with
  | nil => exact (and_iff_left trivial).symm
  | cons c cs ih => rw [exec_cons, ih (hkeep s c hs), hstep s c hs, along_cons, and_assoc]

theorem exec_iff_along {I : S → Prop} (hstep : ∀ s c, I (step s c) ↔ I s ∧ ok s c) (s : S)
    (cs : List C) : I (exec step s cs) ↔ I s ∧ Along step ok s cs :=
  exec_iff_along_of_invariant (fun _ => True) (fun _ _ h => h) (fun s c _ => hstep s c) trivial cs

/-- Two conditions that agree wherever an invariant holds hold along the same
runs, if the first of them keeps the invariant. -/
theorem along_congr {P Q : S → C → Prop} (I : S → Prop)
    (hiff : ∀ s c, I s → ok s c → (P s c ↔ Q s c))
    (hstep : ∀ s c, I s → ok s c → P s c → I (step s c)) {s : S} {cs : List C} (hs : I s)
    (h : Along step ok s cs) : Along step P s cs ↔ Along step Q s cs := by
  induction cs generalizing s with
  | nil => rfl
  | cons c cs ih =>
    rw [along_cons, along_cons, ← hiff s c hs h.1]
    exact and_congr_right fun hP => ih (hstep s c hs h.1 hP) h.2

/-- A counter that never falls and is in the end where it was has stood still. -/
theorem along_of_count_eq {count : S → ℕ} (hle : ∀ s c, count s ≤ count (step s c)) {s : S}
    {cs : List C} (h : count (exec step s cs) = count s) :
    Along step (fun s c => count (step s c) = count s) s cs := by
  have hrun : ∀ (cs : List C) (s : S), count s ≤ count (exec step s cs) := fun cs => by
    induction cs with
    | nil => exact fun s => le_rfl
    | cons c cs ih => exact fun s => (hle s c).trans (ih (step s c))
  induction cs generalizing s with
  | nil => trivial
  | cons c cs ih =>
    have hfirst : count (step s c) = count s :=
      le_antisymm ((hrun cs (step s c)).trans h.le) (hle s c)
    exact ⟨hfirst, ih (h.trans hfirst.symm)⟩

/-- An entry of a log that every call extends was written by one of the calls. -/
theorem exists_writer {E : Type*} {log : S → List E} (happend : ∀ s c, log s <+: log (step s c))
    {s : S} (hs : log s = []) {cs : List C} {i : ℕ} {x : E}
    (h : (log (exec step s cs))[i]? = some x) : ∃ before c after, cs = before ++ c :: after ∧
      (log (exec step s before)).length ≤ i ∧ (log (exec step s (before ++ [c])))[i]? = some x := by
  induction cs using List.reverseRecOn with
  | nil => simp [hs] at h
  | append_singleton cs c ih =>
    by_cases hi : (log (exec step s cs)).length ≤ i
    · exact ⟨cs, c, [], rfl, hi, h⟩
    · rw [exec_append, exec_cons, exec_nil] at h
      obtain ⟨new, hnew⟩ := happend (exec step s cs) c
      rw [← hnew, List.getElem?_append_left (not_le.mp hi)] at h
      obtain ⟨before, c', after, rfl, hle, hget⟩ := ih h
      exact ⟨before, c', after ++ [c], by simp, hle, hget⟩

/-- The progress rule: where a call of one party brings it nearer to its end and no
other call takes it back, enough calls of its own bring it there. -/
theorem Along.rank_le (I : S → Prop) {rank : S → ℕ} {mine : C → Bool}
    (hkeep : ∀ s c, I s → ok s c → I (step s c))
    (hle : ∀ s c, I s → ok s c → rank (step s c) ≤ rank s)
    (hmine : ∀ s c, I s → ok s c → mine c → rank (step s c) ≤ rank s - 1) {s : S} (hs : I s)
    {cs : List C} (h : Along step ok s cs) :
    rank (exec step s cs) ≤ rank s - cs.countP mine := by
  induction cs generalizing s with
  | nil => simp
  | cons c cs ih =>
    have hrest := ih (hkeep s c hs h.1) h.2
    rw [exec_cons, List.countP_cons]
    by_cases hc : mine c
    · have hfirst := hmine s c hs h.1 hc
      rw [if_pos hc]
      omega
    · have hfirst := hle s c hs h.1
      rw [if_neg hc]
      omega

theorem exec_rank_le (I : S → Prop) {rank : S → ℕ} {mine : C → Bool}
    (hkeep : ∀ s c, I s → I (step s c)) (hle : ∀ s c, I s → rank (step s c) ≤ rank s)
    (hmine : ∀ s c, I s → mine c → rank (step s c) ≤ rank s - 1) {s : S} (hs : I s)
    (cs : List C) : rank (exec step s cs) ≤ rank s - cs.countP mine := by
  have hall : Along step (fun _ _ => True) s cs := .of_forall_mem fun _ _ _ => trivial
  exact hall.rank_le I (fun s c hs _ => hkeep s c hs) (fun s c hs _ => hle s c hs)
    (fun s c hs _ => hmine s c hs) hs

/-- The simulation rule: related calls keep related states related. -/
theorem exec_rel {T D : Type*} {step' : T → D → T} {R : S → T → Prop} {Q : C → D → Prop}
    (hstep : ∀ s t c d, R s t → Q c d → R (step s c) (step' t d)) {s : S} {t : T} (hs : R s t)
    {cs : List C} {ds : List D} (h : List.Forall₂ Q cs ds) :
    R (exec step s cs) (exec step' t ds) := by
  induction h generalizing s t with
  | nil => exact hs
  | cons hc _ ih => exact ih (hstep s t _ _ hs hc)

/-! A system with extra bookkeeping projects onto the system itself. -/

section Projection

variable {T : Type*} {step' : T → C → T} (proj : T → S)

theorem proj_exec (hproj : ∀ t c, proj (step' t c) = step (proj t) c) (t : T) (cs : List C) :
    proj (exec step' t cs) = exec step (proj t) cs := by
  induction cs generalizing t with
  | nil => rfl
  | cons c cs ih => rw [exec_cons, exec_cons, ih, hproj]

theorem along_proj_iff (hproj : ∀ t c, proj (step' t c) = step (proj t) c) {t : T} {cs : List C} :
    Along step' (fun t c => ok (proj t) c) t cs ↔ Along step ok (proj t) cs := by
  induction cs generalizing t with
  | nil => rfl
  | cons c cs ih => rw [along_cons, along_cons, ih, hproj]

theorem Along.lift {t : T} {cs : List C} (h : Along step ok (proj t) cs)
    (hproj : ∀ t c, proj (step' t c) = step (proj t) c) : Along step' (fun t c => ok (proj t) c) t cs :=
  (along_proj_iff proj hproj).mpr h

end Projection

end SpatialServer.Runs

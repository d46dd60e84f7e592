import Mathlib.Computability.Language
import Mathlib.Tactic

/-!
# Episodes

An episode is a first letter, any number of middle letters and a last letter.
Whether a word is a sequence of episodes, the last of them possibly cut short,
can be checked as it is read, with one bit of memory: whether the reader is
inside an episode.
-/
namespace SpatialServer.Episodes

open Computability

variable {α : Type*} (first middle last : α)

def episode : Language α := {[first]} * {[middle]}∗ * {[last]}

def episodes : Language α := (episode first middle last)∗

/-- The word is a sequence of episodes up to where it was cut. -/
def CutShort (w : List α) : Prop := ∃ v, w ++ v ∈ episodes first middle last

variable {first middle last}

theorem CutShort.of_append {u v : List α} (h : CutShort first middle last (u ++ v)) :
    CutShort first middle last u := by
  obtain ⟨rest, hrest⟩ := h
  exact ⟨v ++ rest, by rwa [← List.append_assoc]⟩

variable [DecidableEq α] (first middle last)

/-- Reading one letter, inside an episode or between two. -/
def next (inside : Bool) (x : α) : Option Bool :=
  if inside then
    if x = middle then some true else if x = last then some false else none
  else if x = first then some true else none

def monitor (inside : Bool) (w : List α) : Option Bool := w.foldlM (next first middle last) inside

variable {first middle last} {inside : Bool} {w : List α}

@[simp] theorem monitor_nil : monitor first middle last inside [] = some inside := rfl

theorem monitor_cons (x : α) :
    monitor first middle last inside (x :: w) =
      (next first middle last inside x).bind fun i => monitor first middle last i w := by
  simp only [monitor, List.foldlM_cons]
  rfl

theorem monitor_append (u v : List α) :
    monitor first middle last inside (u ++ v) =
      (monitor first middle last inside u).bind fun i => monitor first middle last i v := by
  simp only [monitor, List.foldlM_append]
  rfl

theorem monitor_middles (w : List α) (h : ∀ x ∈ w, x = middle) :
    monitor first middle last true w = some true := by
  induction w with
  | nil => rfl
  | cons x w ih =>
    obtain rfl : x = middle := h x List.mem_cons_self
    rw [monitor_cons, next, if_pos rfl, if_pos rfl]
    exact ih fun y hy => h y (List.mem_cons_of_mem _ hy)

/-- Middle letters are fine inside an episode only. -/
theorem isSome_monitor_middles (h : ∀ x ∈ w, x = middle) (hne : middle ≠ first) :
    (monitor first middle last inside w).isSome ↔ w = [] ∨ inside = true := by
  cases inside with
  | true => simp [monitor_middles w h]
  | false =>
    cases w with
    | nil => simp
    | cons x w =>
      obtain rfl : x = middle := h x List.mem_cons_self
      simp [monitor_cons, next, hne]

theorem monitor_of_mem_episode (hne : last ≠ middle) (h : w ∈ episode first middle last) :
    monitor first middle last false w = some false := by
  obtain ⟨uv, ⟨u, rfl, v, hv, rfl⟩, x, rfl, rfl⟩ := h
  obtain ⟨ms, rfl, hms⟩ := hv
  have hmiddle : ∀ y ∈ ms.flatten, y = middle := by
    intro y hy
    obtain ⟨m, hm, hym⟩ := List.mem_flatten.mp hy
    obtain rfl : m = [middle] := hms m hm
    simpa using hym
  simp [monitor_append, monitor_cons, monitor_middles _ hmiddle, next, hne]

theorem monitor_of_mem (hne : last ≠ middle) (h : w ∈ episodes first middle last) :
    monitor first middle last false w = some false := by
  obtain ⟨ws, rfl, hws⟩ := h
  induction ws with
  | nil => rfl
  | cons w ws ih =>
    rw [List.flatten_cons, monitor_append,
      monitor_of_mem_episode hne (hws w List.mem_cons_self)]
    exact ih fun y hy => hws y (List.mem_cons_of_mem _ hy)

/-- A word that ends between two episodes. Inside one, the rest of that episode
comes first. -/
theorem mem_of_monitor (h : monitor first middle last inside w = some false) :
    w ∈ if inside then {[middle]}∗ * {[last]} * episodes first middle last
      else episodes first middle last := by
  induction w generalizing inside with
  | nil =>
    cases h
    exact Language.nil_mem_kstar _
  | cons x w ih =>
    rw [monitor_cons] at h
    obtain ⟨i, hi, hrest⟩ := Option.bind_eq_some_iff.mp h
    have hw := ih hrest
    unfold next at hi
    split_ifs at hi with hin hx hx hx <;> cases hi
    · subst hin hx
      -- one more middle letter
      have hle : ({[x]} : Language α) * ({[x]}∗ * {[last]} * episodes first x last) ≤
          {[x]}∗ * {[last]} * episodes first x last := by
        rw [← mul_assoc, ← mul_assoc]
        gcongr
        exact mul_kstar_le_kstar
      exact hle ⟨[x], rfl, w, hw, rfl⟩
    · subst hin hx
      have hle : ({[x]} : Language α) * episodes first middle x ≤
          {[middle]}∗ * {[x]} * episodes first middle x := by
        gcongr
        exact le_mul_of_one_le_left' one_le_kstar
      exact hle ⟨[x], rfl, w, hw, rfl⟩
    · subst hx
      rw [if_neg hin]
      have hle : ({[x]} : Language α) * ({[middle]}∗ * {[last]} * episodes x middle last) ≤
          episodes x middle last := by
        rw [← mul_assoc, ← mul_assoc]
        exact mul_kstar_le_kstar
      exact hle ⟨[x], rfl, w, hw, rfl⟩

/-- The monitor refuses exactly the words that are not sequences of episodes. -/
theorem cutShort_iff (hne : last ≠ middle) :
    CutShort first middle last w ↔ (monitor first middle last false w).isSome := by
  constructor
  · rintro ⟨v, hv⟩
    have hall := monitor_of_mem hne hv
    rw [monitor_append] at hall
    obtain ⟨i, hi, -⟩ := Option.bind_eq_some_iff.mp hall
    simp [hi]
  · intro h
    obtain ⟨inside, hinside⟩ := Option.isSome_iff_exists.mp h
    cases inside with
    | false =>
      exact ⟨[], by simpa using mem_of_monitor hinside⟩
    | true =>
      have hend : monitor first middle last false (w ++ [last]) = some false := by
        simp [monitor_append, hinside, monitor_cons, next, hne]
      exact ⟨[last], by simpa using mem_of_monitor hend⟩

end SpatialServer.Episodes

import SpatialServer.Entities

/-!
# Runtime nodes and the least-loaded allocator

A descriptor carries the fields that scheduling and routing read. Scores are
exact integers.
-/
namespace SpatialServer

inductive ServerStatus where
  | joining
  | active
  | draining
  | shutdown
  deriving DecidableEq, Repr

structure NodeCapacity where
  maxZones : ℤ
  deriving DecidableEq, Repr

structure NodeLoad where
  zoneCount : ℤ
  activeEntities : ℤ
  deriving DecidableEq, Repr

def NodeLoad.zero : NodeLoad := ⟨0, 0⟩

structure NodeDescriptor where
  nodeID : ServerID
  advertiseAddr : String
  host : String
  port : ℤ
  capacity : NodeCapacity
  load : NodeLoad
  status : ServerStatus
  deriving DecidableEq, Repr

namespace NodeDescriptor

/-- The routable address, with the legacy pair as the fallback. -/
def address (d : NodeDescriptor) : String :=
  if d.advertiseAddr ≠ "" then d.advertiseAddr else d.host ++ ":" ++ toString d.port

def canAccept (d : NodeDescriptor) : Bool :=
  if d.status ≠ .active then false
  else if d.capacity.maxZones > 0 ∧ d.load.zoneCount ≥ d.capacity.maxZones then false
  else true

def loadScore (n : NodeDescriptor) : ℤ := n.load.zoneCount * 100000 + n.load.activeEntities

end NodeDescriptor

namespace LeastLoadedAllocator

def errNoCapacity : String := "no runtime node with capacity"

/-- One turn of the selection loop. Only a strictly better node replaces the
best one so far. -/
def prefer (best : Option NodeDescriptor) : Option NodeDescriptor → Option NodeDescriptor
  | none => best
  | some n =>
    if n.canAccept = false then best
    else match best with
      | none => some n
      | some b => if n.loadScore < b.loadScore then some n else best

def select (candidates : List (Option NodeDescriptor)) : Except String NodeDescriptor :=
  match candidates.foldl prefer none with
  | none => .error errNoCapacity
  | some best => .ok best

theorem prefer_eq_some {best n : Option NodeDescriptor} {d : NodeDescriptor}
    (h : prefer best n = some d) : best = some d ∨ n = some d ∧ d.canAccept = true := by
  unfold prefer at h
  split at h
  · exact .inl h
  · next n =>
    split_ifs at h with hacc
    · exact .inl h
    have hacc' : n.canAccept = true := by simpa using hacc
    split at h
    · cases h; exact .inr ⟨rfl, hacc'⟩
    · split_ifs at h
      · cases h; exact .inr ⟨rfl, hacc'⟩
      · exact .inl h

theorem isSome_prefer {best n : Option NodeDescriptor}
    (h : best.isSome ∨ ∃ d, n = some d ∧ d.canAccept = true) : (prefer best n).isSome := by
  obtain hbest | ⟨d, rfl, hacc⟩ := h
  · obtain ⟨b, rfl⟩ := Option.isSome_iff_exists.mp hbest
    cases n with
    | none => rfl
    | some d =>
      simp only [prefer]
      split_ifs <;> rfl
  · cases best with
    | none => simp [prefer, hacc]
    | some b =>
      simp only [prefer, hacc, Bool.true_eq_false, if_false]
      split_ifs <;> rfl

theorem foldl_prefer_eq_some {ns : List (Option NodeDescriptor)} {best : Option NodeDescriptor}
    {d : NodeDescriptor} (h : ns.foldl prefer best = some d) :
    best = some d ∨ some d ∈ ns ∧ d.canAccept = true := by
  induction ns generalizing best with
  | nil => exact .inl h
  | cons n ns ih =>
    obtain hfirst | ⟨hmem, hacc⟩ := ih h
    · obtain hbest | ⟨rfl, hacc⟩ := prefer_eq_some hfirst
      · exact .inl hbest
      · exact .inr ⟨by simp, hacc⟩
    · exact .inr ⟨by simp [hmem], hacc⟩

theorem isSome_foldl_prefer {ns : List (Option NodeDescriptor)} {best : Option NodeDescriptor}
    (h : best.isSome ∨ ∃ d, some d ∈ ns ∧ d.canAccept = true) :
    (ns.foldl prefer best).isSome := by
  induction ns generalizing best with
  | nil => simpa using h
  | cons n ns ih =>
    apply ih
    obtain hbest | ⟨d, hmem, hacc⟩ := h
    · exact .inl (isSome_prefer (.inl hbest))
    · obtain heq | hmem := List.mem_cons.mp hmem
      · exact .inl (isSome_prefer (.inr ⟨d, heq.symm, hacc⟩))
      · exact .inr ⟨d, hmem, hacc⟩

/-- What is selected is a candidate that can accept a zone. -/
theorem select_eq_ok {candidates : List (Option NodeDescriptor)} {d : NodeDescriptor}
    (h : select candidates = .ok d) : some d ∈ candidates ∧ d.canAccept = true := by
  unfold select at h
  split at h
  · cases h
  · next best hbest =>
    cases h
    simpa using foldl_prefer_eq_some hbest

theorem exists_select_eq_ok {candidates : List (Option NodeDescriptor)} {d : NodeDescriptor}
    (hmem : some d ∈ candidates) (hacc : d.canAccept = true) :
    ∃ best, select candidates = .ok best := by
  have hsome : (candidates.foldl prefer none).isSome := isSome_foldl_prefer (.inr ⟨d, hmem, hacc⟩)
  obtain ⟨best, hbest⟩ := Option.isSome_iff_exists.mp hsome
  exact ⟨best, by simp [select, hbest]⟩

/-- A node replaces the best one so far by beating it. -/
theorem prefer_cases (best : Option NodeDescriptor) (n : NodeDescriptor) :
    prefer best (some n) = some n ∧ (∀ b ∈ best, n.loadScore < b.loadScore) ∨
      prefer best (some n) = best ∧ (n.canAccept = true → ∃ b ∈ best, b.loadScore ≤ n.loadScore) := by
  by_cases hacc : n.canAccept = true
  · cases best with
    | none => exact .inl ⟨by simp [prefer, hacc], by simp⟩
    | some b =>
      by_cases hlt : n.loadScore < b.loadScore
      · exact .inl ⟨by simp [prefer, hacc, hlt], by simpa using hlt⟩
      · exact .inr ⟨by simp [prefer, hacc, hlt], fun _ => ⟨b, rfl, not_lt.mp hlt⟩⟩
  · exact .inr ⟨by simp [prefer, hacc], fun h => absurd h hacc⟩

/-- The best node so far stays if nobody beats it; otherwise the last node that
did is better than all that can accept before it and no worse than those after. -/
theorem foldl_prefer_spec {candidates : List (Option NodeDescriptor)}
    {best : Option NodeDescriptor} {t : NodeDescriptor}
    (h : candidates.foldl prefer best = some t) :
    best = some t ∧
      (∀ n, some n ∈ candidates → n.canAccept = true → t.loadScore ≤ n.loadScore) ∨
    ∃ l₁ l₂, candidates = l₁ ++ some t :: l₂ ∧ (∀ b ∈ best, t.loadScore < b.loadScore) ∧
      (∀ n, some n ∈ l₁ → n.canAccept = true → t.loadScore < n.loadScore) ∧
      ∀ n, some n ∈ l₂ → n.canAccept = true → t.loadScore ≤ n.loadScore := by
  induction candidates generalizing best with
  | nil => exact .inl ⟨h, by simp⟩
  | cons c candidates ih =>
    rw [List.foldl_cons] at h
    cases c with
    | none =>
      obtain ⟨heq, hall⟩ | ⟨l₁, l₂, rfl, hbest, hbefore, hafter⟩ := ih h
      · exact .inl ⟨heq, by simpa using hall⟩
      · exact .inr ⟨none :: l₁, l₂, rfl, hbest, by simpa using hbefore, hafter⟩
    | some n =>
      obtain ⟨hnew, hbeats⟩ | ⟨hkeep, hbeaten⟩ := prefer_cases best n
      · rw [hnew] at h
        obtain ⟨heq, hall⟩ | ⟨l₁, l₂, rfl, hbest, hbefore, hafter⟩ := ih h
        · cases heq
          exact .inr ⟨[], candidates, rfl, hbeats, by simp, hall⟩
        · refine .inr ⟨some n :: l₁, l₂, rfl, fun b hb => (hbest n rfl).trans (hbeats b hb), ?_,
            hafter⟩
          intro m hm hacc
          obtain heq | hm := List.mem_cons.mp hm
          · cases heq
            exact hbest n rfl
          · exact hbefore m hm hacc
      · rw [hkeep] at h
        obtain ⟨rfl, hall⟩ | ⟨l₁, l₂, rfl, hbest, hbefore, hafter⟩ := ih h
        · refine .inl ⟨rfl, fun m hm hacc => ?_⟩
          obtain heq | hm := List.mem_cons.mp hm
          · cases heq
            obtain ⟨b, hb, hle⟩ := hbeaten hacc
            cases hb
            exact hle
          · exact hall m hm hacc
        · refine .inr ⟨some n :: l₁, l₂, rfl, hbest, fun m hm hacc => ?_, hafter⟩
          obtain heq | hm := List.mem_cons.mp hm
          · cases heq
            obtain ⟨b, hb, hle⟩ := hbeaten hacc
            exact (hbest b hb).trans_le hle
          · exact hbefore m hm hacc

/-- The selected node is the first of the least loaded ones that can accept. -/
theorem select_first_of_least {candidates : List (Option NodeDescriptor)} {t : NodeDescriptor}
    (h : select candidates = .ok t) : ∃ l₁ l₂, candidates = l₁ ++ some t :: l₂ ∧
      (∀ n, some n ∈ l₁ → n.canAccept = true → t.loadScore < n.loadScore) ∧
      ∀ n, some n ∈ l₂ → n.canAccept = true → t.loadScore ≤ n.loadScore := by
  unfold select at h
  split at h
  · cases h
  · next best hbest =>
    cases h
    obtain ⟨hnone, -⟩ | ⟨l₁, l₂, hsplit, -, hbefore, hafter⟩ := foldl_prefer_spec hbest
    · cases hnone
    · exact ⟨l₁, l₂, hsplit, hbefore, hafter⟩

/-- The same for a list without nil entries. -/
theorem select_spec {nodes : List NodeDescriptor} {t : NodeDescriptor}
    (h : select (nodes.map some) = .ok t) : ∃ l₁ l₂, nodes = l₁ ++ t :: l₂ ∧
      (∀ n ∈ l₁, n.canAccept = true → t.loadScore < n.loadScore) ∧
      ∀ n ∈ l₂, n.canAccept = true → t.loadScore ≤ n.loadScore := by
  obtain ⟨k₁, k₂, hsplit, hbefore, hafter⟩ := select_first_of_least h
  obtain ⟨l₁, l, rfl, rfl, hl⟩ := List.map_eq_append_iff.mp hsplit
  obtain ⟨n, l₂, rfl, hn, rfl⟩ := List.map_eq_cons_iff.mp hl
  cases hn
  exact ⟨l₁, l₂, rfl, fun n hn => hbefore n (List.mem_map_of_mem hn),
    fun n hn => hafter n (List.mem_map_of_mem hn)⟩

end LeastLoadedAllocator

/-- Every node of the list `dead` that could be selected is outranked by one that
is not in it: one that comes first and carries no more, or one that carries
less. -/
def Outranked (dead : List ServerID) (nodes : List NodeDescriptor) : Prop :=
  ∀ l₁ d l₂, nodes = l₁ ++ d :: l₂ → d.canAccept = true → d.nodeID ∈ dead →
    (∃ n ∈ l₁, n.canAccept = true ∧ n.nodeID ∉ dead ∧ n.loadScore ≤ d.loadScore) ∨
    ∃ n ∈ l₂, n.canAccept = true ∧ n.nodeID ∉ dead ∧ n.loadScore < d.loadScore

theorem outranked_iff (dead : List ServerID) (nodes : List NodeDescriptor) :
    Outranked dead nodes ↔
      ∀ t, LeastLoadedAllocator.select (nodes.map some) = .ok t → t.nodeID ∉ dead := by
  constructor
  · intro h t ht hdead
    obtain ⟨l₁, l₂, hsplit, hbefore, hafter⟩ := LeastLoadedAllocator.select_spec ht
    have hacc := (LeastLoadedAllocator.select_eq_ok ht).2
    obtain ⟨n, hn, hnacc, -, hle⟩ | ⟨n, hn, hnacc, -, hlt⟩ := h l₁ t l₂ hsplit hacc hdead
    · exact absurd (hbefore n hn hnacc) (not_lt.mpr hle)
    · exact absurd (hafter n hn hnacc) (not_le.mpr hlt)
  · intro h l₁ d l₂ hsplit hacc hdead
    have hmem : some d ∈ nodes.map some := List.mem_map_of_mem (by simp [hsplit])
    obtain ⟨t, ht⟩ := LeastLoadedAllocator.exists_select_eq_ok hmem hacc
    have halive := h t ht
    have htacc := (LeastLoadedAllocator.select_eq_ok ht).2
    obtain ⟨k₁, k₂, hsplit', hbefore, hafter⟩ := LeastLoadedAllocator.select_spec ht
    have hne : t ≠ d := fun heq => halive (heq ▸ hdead)
    -- the selected node stands before the dead one or after it
    obtain ⟨m, hm, hm'⟩ | ⟨m, hm, hm'⟩ := List.append_eq_append_iff.mp (hsplit.symm.trans hsplit')
    · cases m with
      | nil => exact absurd (List.cons.inj hm').1.symm hne
      | cons a m =>
        obtain ⟨rfl, rfl⟩ := List.cons.inj hm'
        exact .inr ⟨t, by simp, htacc, halive, hbefore d (by simp [hm]) hacc⟩
    · cases m with
      | nil => exact absurd (List.cons.inj hm').1 hne
      | cons a m =>
        obtain ⟨rfl, rfl⟩ := List.cons.inj hm'
        exact .inl ⟨t, by simp [hm], htacc, halive, hafter d (by simp) hacc⟩

end SpatialServer

import SpatialServer.Nodes

/-!
# The least-loaded policy

The policy prefers fewer zones and, among nodes with equally many, fewer active
entities. The code weighs a zone as a hundred thousand entities and compares the
sums, so that a node with fewer zones loses to one with more when its entities
outweigh the difference.
-/
namespace SpatialServer

/-- Active and below its limit of zones, where only a positive limit is one. -/
def NodeDescriptor.Eligible (d : NodeDescriptor) : Prop :=
  d.status = .active ∧ (0 < d.capacity.maxZones → d.load.zoneCount < d.capacity.maxZones)

theorem NodeDescriptor.canAccept_iff (d : NodeDescriptor) : d.canAccept = true ↔ d.Eligible := by
  unfold canAccept Eligible
  by_cases hstatus : d.status = .active
  · simp only [hstatus, ne_eq, not_true_eq_false, if_false, true_and]
    split_ifs with hfull
    · simp only [false_iff, Classical.not_imp, not_lt]
      exact hfull
    · simp only [true_iff]
      intro hlimit
      exact not_le.mp fun hle => hfull ⟨hlimit, hle⟩
  · simp [hstatus]

instance (d : NodeDescriptor) : Decidable d.Eligible :=
  inferInstanceAs (Decidable (_ ∧ (_ → _)))

/-- The order of the policy: zones first, then active entities. -/
def NodeLoad.rank (l : NodeLoad) : ℤ ×ₗ ℤ := toLex (l.zoneCount, l.activeEntities)

namespace LeastLoadedAllocator

/-- The first of the eligible candidates that are least in the order of the policy. -/
def LeastLoaded (candidates : List (Option NodeDescriptor)) (d : NodeDescriptor) : Prop :=
  ∃ l₁ l₂, candidates = l₁ ++ some d :: l₂ ∧ d.Eligible ∧
    (∀ n, some n ∈ l₁ → n.Eligible → d.load.rank < n.load.rank) ∧
    ∀ n, some n ∈ l₂ → n.Eligible → d.load.rank ≤ n.load.rank

/-- Every eligible candidate that has not the fewest zones is outweighed by an
eligible one with fewer zones: one before it whose entities exceed its own by at
most a hundred thousand for each zone of the difference, or one after it that
stays below that. -/
def Outweighed (candidates : List (Option NodeDescriptor)) : Prop :=
  ∀ l₁ d l₂, candidates = l₁ ++ some d :: l₂ → d.Eligible →
    (∃ m, some m ∈ candidates ∧ m.Eligible ∧ m.load.zoneCount < d.load.zoneCount) →
    (∃ n, some n ∈ l₁ ∧ n.Eligible ∧ n.load.zoneCount < d.load.zoneCount ∧
      n.load.activeEntities - d.load.activeEntities ≤
        (d.load.zoneCount - n.load.zoneCount) * 100000) ∨
    ∃ n, some n ∈ l₂ ∧ n.Eligible ∧ n.load.zoneCount < d.load.zoneCount ∧
      n.load.activeEntities - d.load.activeEntities <
        (d.load.zoneCount - n.load.zoneCount) * 100000

theorem select_error_iff (candidates : List (Option NodeDescriptor)) :
    select candidates = .error errNoCapacity ↔ ∀ n, some n ∈ candidates → ¬n.Eligible := by
  constructor
  · intro herr n hmem hn
    obtain ⟨best, hbest⟩ := exists_select_eq_ok hmem (n.canAccept_iff.mpr hn)
    rw [hbest] at herr
    cases herr
  · intro h
    rcases hsel : candidates.foldl prefer none with _ | best
    · simp [select, hsel]
    · obtain hnone | ⟨hmem, hacc⟩ := foldl_prefer_eq_some hsel
      · cases hnone
      · exact absurd (best.canAccept_iff.mp hacc) (h best hmem)

section Ranks

variable {t n : NodeDescriptor}

theorem loadScore_le_iff : t.loadScore ≤ n.loadScore ↔
    t.load.activeEntities - n.load.activeEntities ≤
      (n.load.zoneCount - t.load.zoneCount) * 100000 := by
  unfold NodeDescriptor.loadScore
  constructor <;> intro h <;> linarith

theorem loadScore_lt_iff : t.loadScore < n.loadScore ↔
    t.load.activeEntities - n.load.activeEntities <
      (n.load.zoneCount - t.load.zoneCount) * 100000 := by
  unfold NodeDescriptor.loadScore
  constructor <;> intro h <;> linarith

theorem zoneCount_le_of_rank_le (h : t.load.rank ≤ n.load.rank) :
    t.load.zoneCount ≤ n.load.zoneCount := by
  obtain hlt | ⟨heq, -⟩ := Prod.Lex.toLex_le_toLex.mp h
  · exact hlt.le
  · exact heq.le

/-- Between nodes of which the first has no more zones, the score decides as the
order of the policy does. -/
theorem rank_le_of_loadScore_le (hzones : t.load.zoneCount ≤ n.load.zoneCount)
    (h : t.loadScore ≤ n.loadScore) : t.load.rank ≤ n.load.rank := by
  refine Prod.Lex.toLex_le_toLex.mpr (hzones.lt_or_eq.imp_right fun heq => ⟨heq, ?_⟩)
  unfold NodeDescriptor.loadScore at h
  dsimp only at heq ⊢
  omega

theorem rank_lt_of_loadScore_lt (hzones : t.load.zoneCount ≤ n.load.zoneCount)
    (h : t.loadScore < n.loadScore) : t.load.rank < n.load.rank := by
  refine Prod.Lex.toLex_lt_toLex.mpr (hzones.lt_or_eq.imp_right fun heq => ⟨heq, ?_⟩)
  unfold NodeDescriptor.loadScore at h
  dsimp only at heq ⊢
  omega

end Ranks

/-- What is selected has the fewest zones if nothing with more zones can win. -/
theorem Outweighed.zoneCount_le {candidates : List (Option NodeDescriptor)} {t : NodeDescriptor}
    (h : Outweighed candidates) (ht : select candidates = .ok t) {m : NodeDescriptor}
    (hmem : some m ∈ candidates) (hm : m.Eligible) : t.load.zoneCount ≤ m.load.zoneCount := by
  by_contra hlt
  obtain ⟨l₁, l₂, hsplit, hbefore, hafter⟩ := select_first_of_least ht
  have helig := t.canAccept_iff.mp (select_eq_ok ht).2
  obtain ⟨n, hn, hacc, -, hle⟩ | ⟨n, hn, hacc, -, hless⟩ :=
    h l₁ t l₂ hsplit helig ⟨m, hmem, hm, not_le.mp hlt⟩
  · have hbeaten := hbefore n hn (n.canAccept_iff.mpr hacc)
    exact absurd (loadScore_le_iff.mpr hle) (not_le.mpr hbeaten)
  · have hbeaten := hafter n hn (n.canAccept_iff.mpr hacc)
    exact absurd (loadScore_lt_iff.mpr hless) (not_lt.mpr hbeaten)

theorem Outweighed.leastLoaded {candidates : List (Option NodeDescriptor)} {t : NodeDescriptor}
    (h : Outweighed candidates) (ht : select candidates = .ok t) : LeastLoaded candidates t := by
  obtain ⟨l₁, l₂, rfl, hbefore, hafter⟩ := select_first_of_least ht
  refine ⟨l₁, l₂, rfl, t.canAccept_iff.mp (select_eq_ok ht).2, fun n hn hacc => ?_,
    fun n hn hacc => ?_⟩
  · exact rank_lt_of_loadScore_lt (h.zoneCount_le ht (by simp [hn]) hacc)
      (hbefore n hn (n.canAccept_iff.mpr hacc))
  · exact rank_le_of_loadScore_le (h.zoneCount_le ht (by simp [hn]) hacc)
      (hafter n hn (n.canAccept_iff.mpr hacc))

theorem LeastLoaded.rank_le {candidates : List (Option NodeDescriptor)} {t n : NodeDescriptor}
    (h : LeastLoaded candidates t) (hmem : some n ∈ candidates) (hn : n.Eligible) :
    t.load.rank ≤ n.load.rank := by
  obtain ⟨l₁, l₂, rfl, -, hbefore, hafter⟩ := h
  rcases List.mem_append.mp hmem with hmem | hmem
  · exact (hbefore n hmem hn).le
  · rcases List.mem_cons.mp hmem with heq | hmem
    · cases heq
      exact le_rfl
    · exact hafter n hmem hn

/-- A node that is selected by score and least in the order of the policy outweighs
all that have more zones. -/
theorem outweighed_of_leastLoaded {candidates : List (Option NodeDescriptor)}
    {t : NodeDescriptor} (ht : select candidates = .ok t) (hleast : LeastLoaded candidates t) :
    Outweighed candidates := by
  intro l₁ d l₂ hsplit hd ⟨m, hmem, hm, hfewer⟩
  have helig := t.canAccept_iff.mp (select_eq_ok ht).2
  have hzones : t.load.zoneCount < d.load.zoneCount :=
    (zoneCount_le_of_rank_le (hleast.rank_le hmem hm)).trans_lt hfewer
  have hne : t ≠ d := fun heq => absurd hzones (heq ▸ lt_irrefl _)
  obtain ⟨k₁, k₂, hsplit', hbefore, hafter⟩ := select_first_of_least ht
  have hdacc := d.canAccept_iff.mpr hd
  -- the selected node stands before the other one or after it
  obtain ⟨r, hr, hr'⟩ | ⟨r, hr, hr'⟩ := List.append_eq_append_iff.mp (hsplit.symm.trans hsplit')
  · cases r with
    | nil => exact absurd (Option.some.inj (List.cons.inj hr').1).symm hne
    | cons c r =>
      obtain ⟨rfl, rfl⟩ := List.cons.inj hr'
      refine .inr ⟨t, by simp, helig, hzones, ?_⟩
      exact loadScore_lt_iff.mp (hbefore d (by simp [hr]) hdacc)
  · cases r with
    | nil => exact absurd (Option.some.inj (List.cons.inj hr').1) hne
    | cons c r =>
      obtain ⟨rfl, rfl⟩ := List.cons.inj hr'
      refine .inl ⟨t, by simp [hr], helig, hzones, ?_⟩
      exact loadScore_le_iff.mp (hafter d (by simp) hdacc)

/-- Selection fails exactly without an eligible candidate, and it follows the
order of the policy if and only if no candidate with too many zones can win by
its entities. -/
theorem select_follows_policy_iff (candidates : List (Option NodeDescriptor)) :
    ((select candidates = .error errNoCapacity ↔ ∀ n, some n ∈ candidates → ¬n.Eligible) ∧
      ((∃ n, some n ∈ candidates ∧ n.Eligible) →
        ∃ d, select candidates = .ok d ∧ LeastLoaded candidates d)) ↔
      Outweighed candidates := by
  constructor
  · rintro ⟨-, hok⟩ l₁ d l₂ hsplit hd hfewer
    obtain ⟨t, ht, hleast⟩ := hok ⟨d, by simp [hsplit], hd⟩
    exact outweighed_of_leastLoaded ht hleast l₁ d l₂ hsplit hd hfewer
  · intro h
    refine ⟨select_error_iff candidates, fun ⟨n, hmem, hn⟩ => ?_⟩
    obtain ⟨t, ht⟩ := exists_select_eq_ok hmem (n.canAccept_iff.mpr hn)
    exact ⟨t, ht, h.leastLoaded ht⟩

/-- A node without zones and with two hundred thousand entities loses to an empty
one that owns a zone. -/
theorem crowded_node_passed_over :
    let node (id : ServerID) (load : NodeLoad) : NodeDescriptor :=
      ⟨id, "", "", 0, ⟨10⟩, load, .active⟩
    let crowded := node "a" ⟨0, 200000⟩
    let zoned := node "b" ⟨1, 0⟩
    crowded.Eligible ∧ crowded.load.rank < zoned.load.rank ∧
      select [some crowded, none, some zoned] = .ok zoned := by
  refine ⟨by decide, ?_, by decide⟩
  exact Prod.Lex.toLex_lt_toLex.mpr (.inl (by decide))

end LeastLoadedAllocator

end SpatialServer

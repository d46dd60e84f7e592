import SpatialServer.RoomService

/-!
# The routing cache of a gateway

The cache maps a zone to the server that runs it, for a fixed time. Every access
holds the lock, but `Get` holds it twice: it reads the item and the clock under
the read lock, and if the item has expired it deletes the entry of the zone under
the write lock. Another goroutine can store a fresh entry between the two, and
then it is the fresh entry that is deleted.
-/
namespace SpatialServer.Gateway

open Runs Statements Room

structure CacheEntry where
  serverID : String
  host : String
  port : ℤ
  deriving DecidableEq, Repr

structure CacheItem where
  entry : CacheEntry
  expiresAt : Time
  deriving DecidableEq, Repr

structure RouterCache where
  ttl : Duration
  entries : Dict String CacheItem

/-- The sections that hold the lock. -/
inductive CacheSection where
  | set (zoneID : String) (entry : CacheEntry)
  | delete (zoneID : String)
  | read (zoneID : String)
  deriving DecidableEq

/-- A read finds nothing, or an entry and whether it has expired. -/
def CacheSection.Reply : CacheSection → Type
  | .set _ _ | .delete _ => Unit
  | .read _ => Option (CacheEntry × Bool)

namespace RouterCache

def new (ttl : Duration) : RouterCache := ⟨ttl, ∅⟩

/-- A section, with the time that it reads from the clock. -/
def run (rc : RouterCache) (now : Time) : (op : CacheSection) → op.Reply × RouterCache
  | .set zoneID entry =>
    ((), { rc with entries := rc.entries.set zoneID ⟨entry, now + rc.ttl⟩ })
  | .delete zoneID => ((), { rc with entries := rc.entries.del zoneID })
  | .read zoneID =>
    ((rc.entries.get zoneID).map fun item => (item.entry, decide (item.expiresAt < now)), rc)

end RouterCache

/-- A call on the cache, which returns an entry or none. -/
abbrev CacheProg := Prog CacheSection CacheSection.Reply (Option CacheEntry)

namespace RouterCache

def set (zoneID serverID host : String) (port : ℤ) : CacheProg := do
  let _ ← Prog.query (CacheSection.set zoneID ⟨serverID, host, port⟩)
  return none

def invalidate (zoneID : String) : CacheProg := do
  let _ ← Prog.query (CacheSection.delete zoneID)
  return none

def applyChange (c : OwnershipChange) : CacheProg := set c.zoneID c.serverID c.host c.port

/-- What `Get` does after its read. -/
def afterRead (zoneID : String) : Option (CacheEntry × Bool) → CacheProg
  | none => return none
  | some (entry, expired) =>
    if expired then do
      let _ ← Prog.query (CacheSection.delete zoneID)
      return none
    else return some entry

def get (zoneID : String) : CacheProg := do
  let found ← Prog.query (CacheSection.read zoneID)
  afterRead zoneID found

end RouterCache

inductive CacheCall where
  | set (zoneID serverID host : String) (port : ℤ)
  | invalidate (zoneID : String)
  | applyChange (c : OwnershipChange)
  | get (zoneID : String)
  deriving DecidableEq, Repr

namespace CacheCall

def prog : CacheCall → CacheProg
  | .set zoneID serverID host port => RouterCache.set zoneID serverID host port
  | .invalidate zoneID => RouterCache.invalidate zoneID
  | .applyChange c => RouterCache.applyChange c
  | .get zoneID => RouterCache.get zoneID

/-- What the call stores, and for which zone. -/
def stores : CacheCall → Option (String × CacheEntry)
  | .set zoneID serverID host port => some (zoneID, ⟨serverID, host, port⟩)
  | .applyChange c => some (c.zoneID, ⟨c.serverID, c.host, c.port⟩)
  | _ => none

/-- The call sets or invalidates the zone. -/
def Writes (c : CacheCall) (zoneID : String) : Prop :=
  c = .invalidate zoneID ∨ ∃ entry, c.stores = some (zoneID, entry)

end CacheCall

/-- One cache and the calls of all goroutines, each by its number. -/
abbrev SharedCache := Pool CacheSection CacheSection.Reply RouterCache (Option CacheEntry)

namespace SharedCache

def start (ttl : Duration) (calls : ℕ → CacheCall) : SharedCache :=
  ⟨.new ttl, fun i => (calls i).prog⟩

/-- The next section of a call, at a time of the clock. -/
abbrev step : SharedCache → ℕ × Time → SharedCache := Pool.step RouterCache.run

/-- How far a call has come. -/
inductive Stage : CacheCall → CacheProg → Prop where
  | start (c : CacheCall) : Stage c c.prog
  | expired (zoneID : String) :
      Stage (.get zoneID) (.step (.delete zoneID) fun _ => .done none)
  | returned (c : CacheCall) (found : Option CacheEntry) : Stage c (.done found)

/-- The call has yet to run, and sets or invalidates the zone. -/
def Starts (calls : ℕ → CacheCall) (z : String) (p : SharedCache) (ev : ℕ × Time) : Prop :=
  (calls ev.1).Writes z ∧ (p.threads ev.1).result = none

/-- The call has found an expired entry of the zone and is about to delete. -/
def Deleting (calls : ℕ → CacheCall) (z : String) (p : SharedCache) (i : ℕ) : Prop :=
  calls i = .get z ∧ (p.threads i).next = some (.delete z)

/-- The sections that calls consist of. -/
theorem prog_cases (c : CacheCall) :
    (∃ z entry, c.stores = some (z, entry) ∧ c.prog = .step (.set z entry) fun _ => .done none) ∨
    (∃ z, c = .invalidate z ∧ c.prog = .step (.delete z) fun _ => .done none) ∨
    ∃ z, c = .get z ∧ c.prog = .step (.read z) (RouterCache.afterRead z) := by
  cases c with
  | set z serverID host port => exact .inl ⟨z, _, rfl, rfl⟩
  | invalidate z => exact .inr (.inl ⟨z, rfl, rfl⟩)
  | applyChange c => exact .inl ⟨_, _, rfl, rfl⟩
  | get z => exact .inr (.inr ⟨z, rfl, rfl⟩)

theorem prog_of_stores {c : CacheCall} {z : String} {entry : CacheEntry}
    (h : c.stores = some (z, entry)) : c.prog = .step (.set z entry) fun _ => .done none := by
  obtain ⟨z', entry', hstores, hprog⟩ | ⟨z', rfl, -⟩ | ⟨z', rfl, -⟩ := prog_cases c
  · cases hstores.symm.trans h
    exact hprog
  · cases h
  · cases h

/-- After its read a `Get` returns, unless it found an expired entry. -/
theorem afterRead_cases (z : String) (found : Option (CacheEntry × Bool)) :
    (∃ entry, found = some (entry, true) ∧
      RouterCache.afterRead z found = .step (.delete z) fun _ => .done none) ∨
    ∃ result, RouterCache.afterRead z found = .done result := by
  rcases found with _ | ⟨entry, _ | _⟩
  · exact .inr ⟨none, rfl⟩
  · exact .inr ⟨some entry, rfl⟩
  · exact .inl ⟨entry, rfl, rfl⟩

theorem Stage.next {c : CacheCall} {op : CacheSection} {k : op.Reply → CacheProg}
    (h : Stage c (.step op k)) (reply : op.Reply) : Stage c (k reply) := by
  generalize hq : Prog.step op k = q at h
  cases h with
  | start =>
    obtain ⟨z, entry, -, hprog⟩ | ⟨z, -, hprog⟩ | ⟨z, rfl, hprog⟩ := prog_cases c
    · rw [hprog] at hq
      cases hq
      exact .returned c none
    · rw [hprog] at hq
      cases hq
      exact .returned c none
    · rw [hprog] at hq
      cases hq
      obtain ⟨entry, -, hafter⟩ | ⟨result, hafter⟩ := afterRead_cases z reply
      · rw [hafter]
        exact .expired z
      · rw [hafter]
        exact .returned _ result
  | expired z =>
    cases hq
    exact .returned _ none
  | returned found => cases hq

/-- Every thread is somewhere in its call. -/
def Staged (calls : ℕ → CacheCall) (p : SharedCache) : Prop := ∀ i, Stage (calls i) (p.threads i)

theorem Staged.step {calls : ℕ → CacheCall} {p : SharedCache} (h : Staged calls p)
    (ev : ℕ × Time) : Staged calls (step p ev) :=
  Pool.forall_threads_step (T := fun i q => Stage (calls i) q) (fun _ _ _ hstage => hstage.next) h ev

theorem staged_exec (ttl : Duration) (calls : ℕ → CacheCall) (evs : List (ℕ × Time)) :
    Staged calls (exec step (start ttl calls) evs) :=
  exec_keeps (Staged calls) (fun _ ev h => h.step ev) (fun i => .start (calls i)) evs

theorem store_step {p : SharedCache} {ev : ℕ × Time} {op : CacheSection}
    {k : op.Reply → CacheProg} (h : p.threads ev.1 = .step op k) :
    (step p ev).store = (p.store.run ev.2 op).2 := by
  rw [step, Pool.step_of_step h]

/-- What a step can do to the entry of a zone: nothing; store or remove it, by a
call that starts; or remove it for a `Get` that found it expired. -/
theorem step_cases {calls : ℕ → CacheCall} {p : SharedCache} (h : Staged calls p)
    (ev : ℕ × Time) (z : String) :
    (¬Deleting calls z p ev.1 ∧ (step p ev).store.entries.get z = p.store.entries.get z) ∨
    (Starts calls z p ev ∧ ((step p ev).store.entries.get z = none ∨
      ∃ entry, (calls ev.1).stores = some (z, entry) ∧
        (step p ev).store.entries.get z = some ⟨entry, ev.2 + p.store.ttl⟩)) ∨
    (Deleting calls z p ev.1 ∧ (step p ev).store.entries.get z = none) := by
  have hstage := h ev.1
  generalize hcall : calls ev.1 = c at hstage ⊢
  generalize hthread : p.threads ev.1 = q at hstage
  cases hstage with
  | returned found =>
    refine .inl ⟨by simp [Deleting, hthread, Prog.next], ?_⟩
    rw [step, Pool.step_of_done hthread]
  | expired z' =>
    by_cases hz : z = z'
    · subst hz
      refine .inr (.inr ⟨⟨hcall, by rw [hthread]; rfl⟩, ?_⟩)
      simp [store_step hthread, RouterCache.run]
    · refine .inl ⟨by simp [Deleting, hcall, Ne.symm hz], ?_⟩
      simp [store_step hthread, RouterCache.run, hz]
  | start =>
    obtain ⟨z', entry, hstores, hprog⟩ | ⟨z', rfl, hprog⟩ | ⟨z', rfl, hprog⟩ := prog_cases c <;>
      rw [hprog] at hthread
    · by_cases hz : z = z'
      · subst hz
        refine .inr (.inl ⟨⟨.inr ⟨entry, hcall ▸ hstores⟩, by rw [hthread]; rfl⟩, .inr ⟨entry, ?_⟩⟩)
        simp [store_step hthread, RouterCache.run, hstores]
      · refine .inl ⟨by simp [Deleting, hthread, Prog.next], ?_⟩
        simp [store_step hthread, RouterCache.run, hz]
    · by_cases hz : z = z'
      · subst hz
        refine .inr (.inl ⟨⟨.inl hcall, by rw [hthread]; rfl⟩, .inl ?_⟩)
        simp [store_step hthread, RouterCache.run]
      · refine .inl ⟨by simp [Deleting, hcall], ?_⟩
        simp [store_step hthread, RouterCache.run, hz]
    · refine .inl ⟨by simp [Deleting, hthread, Prog.next], ?_⟩
      simp [store_step hthread, RouterCache.run]

/-! ## An entry until it is read -/

section Until

variable {calls : ℕ → CacheCall} {p : SharedCache} {z : String}

/-- An entry that is missing stays so until a call starts that stores it. -/
theorem entry_none_exec (h : Staged calls p) (hnone : p.store.entries.get z = none)
    {evs : List (ℕ × Time)} (hquiet : Along step (fun p ev => ¬Starts calls z p ev) p evs) :
    (exec step p evs).store.entries.get z = none := by
  have hboth := exec_invariant
    (fun p : SharedCache => Staged calls p ∧ p.store.entries.get z = none)
    (fun p ev hp hev => ⟨hp.1.step ev, ?_⟩) ⟨h, hnone⟩ hquiet
  · exact hboth.2
  · obtain ⟨-, hsame⟩ | ⟨hstarts, -⟩ | ⟨-, hgone⟩ := step_cases hp.1 ev z
    · exact hsame.trans hp.2
    · exact absurd hstarts hev
    · exact hgone

/-- Reading an entry that has not expired does not lead to its deletion. -/
theorem not_deleting_step {ev : ℕ × Time} {item : CacheItem} (h : Staged calls p)
    (hitem : p.store.entries.get z = some item) (htime : ev.2 ≤ item.expiresAt) :
    ¬Deleting calls z (step p ev) ev.1 := by
  rintro ⟨hcall, hnext⟩
  have hstage := h ev.1
  rw [hcall] at hstage
  generalize hthread : p.threads ev.1 = q at hstage
  cases hstage with
  | returned found =>
    rw [step, Pool.step_of_done hthread, hthread] at hnext
    cases hnext
  | expired =>
    rw [step, Pool.step_of_step hthread] at hnext
    simp [Prog.next] at hnext
  | start =>
    have hprog : p.threads ev.1 = .step (.read z) (RouterCache.afterRead z) := hthread
    rw [step, Pool.step_of_step hprog] at hnext
    simp [RouterCache.run, hitem, RouterCache.afterRead, not_lt.mpr htime, Prog.next] at hnext

/-- An entry that does not expire meanwhile and is not written survives if and
only if no `Get` that has found the entry of the zone expired gets to its second
section. -/
theorem entry_survives_iff {item : CacheItem} (h : Staged calls p)
    (hitem : p.store.entries.get z = some item) {evs : List (ℕ × Time)}
    (hquiet : Along step (fun p ev => ¬Starts calls z p ev) p evs)
    (htimes : ∀ ev ∈ evs, ev.2 ≤ item.expiresAt) :
    ((exec step p evs).store.entries.get z = some item ∨
        (exec step p evs).store.entries.get z = none) ∧
      ((exec step p evs).store.entries.get z = some item ↔
        ∀ k, Deleting calls z p k → ∀ ev ∈ evs, ev.1 ≠ k) := by
  induction evs generalizing p with
  | nil => exact ⟨.inl hitem, iff_of_true hitem (by simp)⟩
  | cons ev evs ih =>
    rw [exec_cons]
    obtain ⟨hnot, hsame⟩ | ⟨hstarts, -⟩ | ⟨hdeleting, hgone⟩ := step_cases h ev z
    · have hrest := ih (h.step ev) (hsame.trans hitem) hquiet.2 fun ev' hev' =>
        htimes ev' (by simp [hev'])
      -- the step changes neither who is about to delete nor the entry
      have hsamek : ∀ k, Deleting calls z (step p ev) k ↔ Deleting calls z p k := by
        intro k
        by_cases hk : k = ev.1
        · subst hk
          exact iff_of_false (not_deleting_step h hitem (htimes ev (by simp))) hnot
        · rw [Deleting, Deleting, step, Pool.threads_step_ne p ev hk]
      refine ⟨hrest.1, hrest.2.trans (forall_congr' fun k => ?_)⟩
      rw [hsamek]
      refine forall_congr' fun hk => ?_
      have hne : ev.1 ≠ k := fun heq => hnot (heq ▸ hk)
      simp [hne]
    · exact absurd hstarts hquiet.1
    · have hnone := entry_none_exec (h.step ev) hgone hquiet.2
      refine ⟨.inr hnone, iff_of_false (by simp [hnone]) fun hall => ?_⟩
      exact hall ev.1 hdeleting ev (by simp) rfl

end Until

/-- A `Get` returns an entry in its first section, and only one that has not
expired. -/
theorem get_returns_iff {p : SharedCache} {j : ℕ} {z : String} {now : Time} {entry : CacheEntry}
    (h : Stage (.get z) (p.threads j)) (hruns : (p.threads j).result = none) :
    ((step p (j, now)).threads j).result = some (some entry) ↔
      (p.threads j).next = some (.read z) ∧
        ∃ item, p.store.entries.get z = some item ∧ item.entry = entry ∧ now ≤ item.expiresAt := by
  generalize hthread : p.threads j = q at h hruns
  cases h with
  | returned found => simp at hruns
  | expired =>
    have hprog : p.threads (j, now).1 = .step (.delete z) fun _ => .done none := hthread
    rw [step, Pool.step_of_step hprog]
    simp [Prog.next]
  | start =>
    have hprog : p.threads (j, now).1 = .step (.read z) (RouterCache.afterRead z) := hthread
    have hread : (CacheCall.get z).prog.next = some (.read z) := rfl
    rw [step, Pool.step_of_step hprog]
    rcases hget : p.store.entries.get z with _ | item
    · simp [RouterCache.run, hget, RouterCache.afterRead]
    · by_cases htime : item.expiresAt < now
      · have hafter : RouterCache.afterRead z (some (item.entry, true)) =
            .step (.delete z) fun _ => .done none := rfl
        simp [RouterCache.run, hget, hafter, htime, not_le.mpr htime]
      · simp [RouterCache.run, hget, RouterCache.afterRead, htime, not_lt.mp htime, hread]

/-! ## Where entries come from -/

section Origin

variable {ttl : Duration} {calls : ℕ → CacheCall}

theorem ttl_exec (evs : List (ℕ × Time)) : (exec step (start ttl calls) evs).store.ttl = ttl := by
  refine exec_keeps (fun p : SharedCache => p.store.ttl = ttl) (fun p ev hp => ?_) rfl evs
  cases hthread : p.threads ev.1 with
  | done found => rw [step, Pool.step_of_done hthread, hp]
  | step op k =>
    rw [store_step hthread]
    cases op <;> exact hp

/-- An item in the cache was stored by a call of the run, and expires the fixed
time later. -/
theorem entry_stored {evs : List (ℕ × Time)} {z : String} {item : CacheItem}
    (h : (exec step (start ttl calls) evs).store.entries.get z = some item) :
    ∃ before i stored after, evs = before ++ (i, stored) :: after ∧
      (calls i).stores = some (z, item.entry) ∧
      ((exec step (start ttl calls) before).threads i).result = none ∧
      item.expiresAt = stored + ttl := by
  induction evs using List.reverseRecOn with
  | nil => simp [start, RouterCache.new] at h
  | append_singleton evs ev ih =>
    rw [exec_append, exec_cons, exec_nil] at h
    obtain ⟨-, hsame⟩ | ⟨hstarts, hgone | ⟨entry, hstores, hset⟩⟩ | ⟨-, hgone⟩ :=
      step_cases (staged_exec ttl calls evs) ev z
    · obtain ⟨before, i, stored, after, rfl, hrest⟩ := ih (hsame.symm.trans h)
      exact ⟨before, i, stored, after ++ [ev], by simp, hrest⟩
    · simp [hgone] at h
    · rw [hset, ttl_exec] at h
      obtain rfl := Option.some.inj h
      exact ⟨evs, ev.1, ev.2, [], rfl, hstores, hstarts.2, rfl⟩
    · simp [hgone] at h

end Origin

section AfterSet

variable (ttl : Duration) {calls : ℕ → CacheCall} {before : List (ℕ × Time)} {i : ℕ}
  (stored : Time) {z : String} {entry : CacheEntry}

/-- The section of a `Set` stores its entry, and takes nobody closer to a
deletion. -/
theorem stored_by_set (hstores : (calls i).stores = some (z, entry))
    (hi : ∀ ev ∈ before, ev.1 ≠ i) :
    (exec step (start ttl calls) (before ++ [(i, stored)])).store.entries.get z =
        some ⟨entry, stored + ttl⟩ ∧
      ∀ k, Deleting calls z (exec step (start ttl calls) (before ++ [(i, stored)])) k ↔
        Deleting calls z (exec step (start ttl calls) before) k := by
  have hset : (exec step (start ttl calls) before).threads (i, stored).1 =
      .step (.set z entry) fun _ => .done none := by
    rw [Pool.threads_exec_of_forall_ne _ hi]
    exact prog_of_stores hstores
  rw [exec_append, exec_cons, exec_nil]
  refine ⟨by simp [store_step hset, RouterCache.run, ttl_exec], fun k => ?_⟩
  by_cases hk : k = i
  · subst hk
    have hnot : calls k ≠ .get z := fun heq => by simp [heq, CacheCall.stores] at hstores
    exact iff_of_false (fun h => hnot h.1) (fun h => hnot h.1)
  · rw [Deleting, Deleting, step, Pool.threads_step_ne _ _ hk]

theorem get_after_set_iff {between : List (ℕ × Time)} {j : ℕ} {now : Time}
    (hstores : (calls i).stores = some (z, entry)) (hi : ∀ ev ∈ before, ev.1 ≠ i)
    (hget : calls j = .get z) (hj : ∀ ev ∈ before ++ between, ev.1 ≠ j)
    (hclock : ∀ ev ∈ between, ev.2 ≤ now)
    (hquiet : Along step (fun p ev => ¬Starts calls z p ev)
      (exec step (start ttl calls) (before ++ [(i, stored)])) between)
    (hwithin : now ≤ stored + ttl) :
    ((exec step (start ttl calls) (before ++ (i, stored) :: between ++ [(j, now)])).threads
        j).result = some (some entry) ↔
      ∀ k, Deleting calls z (exec step (start ttl calls) before) k →
        ∀ ev ∈ between, ev.1 ≠ k := by
  obtain ⟨hitem, hdeleting⟩ := stored_by_set ttl stored hstores hi
  obtain ⟨honly, hsurvives⟩ := entry_survives_iff (staged_exec ttl calls _) hitem hquiet
    fun ev hev => (hclock ev hev).trans hwithin
  simp only [hdeleting] at hsurvives
  rw [← hsurvives, ← exec_append]
  rw [← exec_append] at honly
  -- the `Get` has not been scheduled yet
  have hlist : before ++ (i, stored) :: between = before ++ [(i, stored)] ++ between := by simp
  have hthread : (exec step (start ttl calls) (before ++ [(i, stored)] ++ between)).threads j =
      (CacheCall.get z).prog := by
    rw [← hget]
    refine Pool.threads_exec_of_forall_ne _ fun ev hev => ?_
    simp only [List.append_assoc, List.mem_append, List.mem_singleton] at hev
    rcases hev with hev | rfl | hev
    · exact hj ev (by simp [hev])
    · rintro rfl
      simp [hget, CacheCall.stores] at hstores
    · exact hj ev (by simp [hev])
  have hstage : Stage (.get z)
      ((exec step (start ttl calls) (before ++ [(i, stored)] ++ between)).threads j) :=
    hthread ▸ .start _
  rw [hlist, exec_append _ _ _ [(j, now)], exec_cons, exec_nil,
    get_returns_iff hstage (by rw [hthread]; rfl), hthread]
  constructor
  · rintro ⟨-, item, hfound, -⟩
    rcases honly with hsame | hnone
    · exact hsame
    · cases hnone.symm.trans hfound
  · exact fun hsame => ⟨rfl, _, hsame, rfl, hwithin⟩

end AfterSet

/-- A `Get` that starts within the time of an entry, after it was stored and with
no other write of the zone since, returns it if and only if no `Get` of the zone
that was waiting to delete an expired entry when the new one was stored has done
so in between. No `Get` returns an entry after its time. -/
theorem cache_keeps_set_iff (ttl : Duration) (calls : ℕ → CacheCall) :
    (∀ before i stored between j now z entry,
      (calls i).stores = some (z, entry) → (∀ ev ∈ before, ev.1 ≠ i) →
      calls j = .get z → (∀ ev ∈ before ++ between, ev.1 ≠ j) →
      ((before ++ (i, stored) :: between ++ [(j, now)]).map Prod.snd).Pairwise (· ≤ ·) →
      Along step (fun p ev => ¬Starts calls z p ev)
        (exec step (start ttl calls) (before ++ [(i, stored)])) between →
      now ≤ stored + ttl →
      (((exec step (start ttl calls) (before ++ (i, stored) :: between ++ [(j, now)])).threads
          j).result = some (some entry) ↔
        ∀ k, Deleting calls z (exec step (start ttl calls) before) k →
          ∀ ev ∈ between, ev.1 ≠ k)) ∧
    ∀ before j now z entry, calls j = .get z →
      ((exec step (start ttl calls) before).threads j).result = none →
      ((exec step (start ttl calls) (before ++ [(j, now)])).threads j).result =
        some (some entry) →
      ∃ earlier i stored later, before = earlier ++ (i, stored) :: later ∧
        (calls i).stores = some (z, entry) ∧
        ((exec step (start ttl calls) earlier).threads i).result = none ∧
        now ≤ stored + ttl := by
  constructor
  · intro before i stored between j now z entry hstores hi hget hj hclock hquiet hwithin
    refine get_after_set_iff ttl stored hstores hi hget hj (fun ev hev => ?_) hquiet hwithin
    rw [List.map_append, List.pairwise_append] at hclock
    exact hclock.2.2 ev.2 (List.mem_map_of_mem (by simp [hev])) now (by simp)
  · intro before j now z entry hget hruns hreturns
    have hstage := staged_exec ttl calls before j
    rw [hget] at hstage
    rw [exec_append, exec_cons, exec_nil, get_returns_iff hstage hruns] at hreturns
    obtain ⟨-, item, hitem, rfl, htime⟩ := hreturns
    obtain ⟨earlier, i, stored, later, hbefore, hset, hresult, hexpires⟩ := entry_stored hitem
    exact ⟨earlier, i, stored, later, hbefore, hset, hresult, hexpires ▸ htime⟩

/-- Two calls of `Get` and two of `Set`, numbered so. -/
def twoGetsTwoSets : ℕ → CacheCall
  | 0 => .set "z1" "gs-1" "h1" 9001
  | 1 => .get "z1"
  | 2 => .set "z1" "gs-2" "h2" 9002
  | _ => .get "z1"

/-- The first `Get` finds an expired entry and deletes it, and only then a new
entry is stored, which the second `Get` returns. -/
theorem cache_keeps_set_after_delete :
    ((exec step (start 10 twoGetsTwoSets) ([(0, 0), (1, 11), (1, 11)] ++ (2, 12) :: [] ++
      [(3, 12)])).threads 3).result = some (some ⟨"gs-2", "h2", 9002⟩) := by
  refine ((cache_keeps_set_iff 10 twoGetsTwoSets).1 _ _ _ _ _ _ "z1" _ rfl (by decide) rfl
    (by decide) (by decide) (along_nil _) (by decide)).mpr ?_
  simp

/-- The first `Get` finds an expired entry, the second `Set` stores a new one,
and then the first `Get` deletes it. The second `Get` finds nothing, at the same
time at which the entry was stored. -/
theorem cache_loses_set :
    ((exec step (start 10 twoGetsTwoSets) [(0, 0), (1, 11), (2, 12), (1, 12), (3, 12)]).threads
      3).result = some none := by
  decide +kernel

end SharedCache

end SpatialServer.Gateway

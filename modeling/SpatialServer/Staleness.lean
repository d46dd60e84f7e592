import SpatialServer.Announcements

/-!
# Lost announcements

The server announces who appears and who disappears, and records for each client
what is around it whether or not the announcement went through. It announces
differences to the record, so an announcement that is lost is not repeated. For
one client and one other entity the announcements alternate between the two
kinds; the client is right about the entity whenever the number of announcements
lost since the last one that arrived is even, and wrong when it is odd.
-/
namespace SpatialServer

open Runs

/-- An announcement, and whether the channel took it. -/
abbrev Attempt := Event × Bool

/-- The announcements that arrived. -/
def delivered (tries : List Attempt) : List Event := (tries.filter (·.2)).map (·.1)

/-- What was to be told to `o` about `s`, and whether it arrived. -/
def tale (o s : EntityID) (tries : List Attempt) : List (EventKind × Bool) :=
  tries.filterMap fun out => (out.1.tells o s).map (·, out.2)

/-- How many in a row did not arrive up to now, with `n` lost before. -/
def lostFrom (n : ℕ) (tale : List (EventKind × Bool)) : ℕ :=
  tale.foldl (fun n told => if told.2 then 0 else n + 1) n

/-- Whether the entity is in view at the end, if it was or was not before. -/
def inViewFrom (inView : Bool) (tale : List (EventKind × Bool)) : Bool :=
  tale.foldl (fun inView told => if told.2 then decide (told.1 = .spawn) else inView) inView

section Pair

variable {o s : EntityID}

@[simp] theorem delivered_append (tries tries' : List Attempt) :
    delivered (tries ++ tries') = delivered tries ++ delivered tries' := by
  simp [delivered]

@[simp] theorem tale_append (tries tries' : List Attempt) :
    tale o s (tries ++ tries') = tale o s tries ++ tale o s tries' := List.filterMap_append

theorem tale_cons (out : Attempt) (tries : List Attempt) :
    tale o s (out :: tries) = ((out.1.tells o s).map (·, out.2)).toList ++ tale o s tries := by
  cases htells : out.1.tells o s <;> simp [tale, htells]

theorem lostFrom_append (n : ℕ) (told told' : List (EventKind × Bool)) :
    lostFrom n (told ++ told') = lostFrom (lostFrom n told) told' := List.foldl_append

theorem map_fst_tale (tries : List Attempt) :
    (tale o s tries).map Prod.fst = story o s (tries.map Prod.fst) := by
  simp only [tale, story, List.map_filterMap, List.filterMap_map, Option.map_map,
    Function.comp_def, Option.map_id']

/-- Where nothing was to be told, or one thing. -/
theorem tale_eq_nil_iff (tries : List Attempt) :
    tale o s tries = [] ↔ story o s (tries.map Prod.fst) = [] := by
  rw [← map_fst_tale, List.map_eq_nil_iff]

theorem exists_tale_eq_singleton {tries : List Attempt} {k : EventKind}
    (h : story o s (tries.map Prod.fst) = [k]) : ∃ arrived, tale o s tries = [(k, arrived)] := by
  rw [← map_fst_tale, List.map_eq_singleton_iff] at h
  obtain ⟨⟨k', arrived⟩, htale, rfl⟩ := h
  exact ⟨arrived, htale⟩

theorem mem_observe_announcement {evt : Event} (hann : evt.IsAnnouncement)
    (view : Finset EntityID) :
    s ∈ observe o view evt ↔
      inViewFrom (decide (s ∈ view)) ((evt.tells o s).map (·, true)).toList = true := by
  by_cases hobs : evt.observer = o
  · by_cases hid : evt.entityID = s
    · rcases hann with hkind | hkind <;> simp [observe, Event.tells, inViewFrom, hobs, hid, hkind]
    · rcases hann with hkind | hkind <;>
        simp [observe, Event.tells, inViewFrom, hobs, hid, hkind, Ne.symm hid]
  · simp [observe, Event.tells, inViewFrom, hobs]

/-- The view of the client is what the tale says. -/
theorem mem_foldl_delivered_iff {tries : List Attempt} (hann : ∀ out ∈ tries, out.1.IsAnnouncement)
    (view : Finset EntityID) :
    s ∈ (delivered tries).foldl (observe o) view ↔
      inViewFrom (decide (s ∈ view)) (tale o s tries) = true := by
  induction tries generalizing view with
  | nil => simp [delivered, tale, inViewFrom]
  | cons out tries ih =>
    obtain ⟨evt, arrived⟩ := out
    have hrest := ih fun out hout => hann out (List.mem_cons_of_mem _ hout)
    have hevt : evt.IsAnnouncement := hann (evt, arrived) List.mem_cons_self
    rw [tale_cons, inViewFrom, List.foldl_append, ← inViewFrom, ← inViewFrom]
    cases arrived with
    | false =>
      have hsame : inViewFrom (decide (s ∈ view)) ((evt.tells o s).map (·, false)).toList =
          decide (s ∈ view) := by cases evt.tells o s <;> simp [inViewFrom]
      rw [hsame]
      exact hrest view
    | true =>
      have hobserved := mem_observe_announcement (o := o) (s := s) hevt view
      have hdecide : inViewFrom (decide (s ∈ view)) ((evt.tells o s).map (·, true)).toList =
          decide (s ∈ observe o view evt) := by
        rw [Bool.eq_iff_iff, ← hobserved, decide_eq_true_eq]
      rw [hdecide]
      exact hrest (observe o view evt)

/-- The client is right before and after a change that is announced once: either
it learns of it, or it misses one announcement more. -/
theorem inViewFrom_iff {inView : Bool} {n : ℕ} {before after : Prop}
    {told : List (EventKind × Bool)} (hview : inView = true ↔ (before ↔ Even n))
    (htold : told = [] ∧ (after ↔ before) ∨
      (∃ arrived, told = [(.spawn, arrived)]) ∧ ¬ before ∧ after ∨
      (∃ arrived, told = [(.despawn, arrived)]) ∧ before ∧ ¬ after) :
    inViewFrom inView told = true ↔ (after ↔ Even (lostFrom n told)) := by
  rcases htold with ⟨rfl, hsame⟩ | ⟨⟨arrived, rfl⟩, hout, hin⟩ | ⟨⟨arrived, rfl⟩, hin, hout⟩
  · simpa [inViewFrom, lostFrom, hsame] using hview
  · cases arrived <;> simp [inViewFrom, lostFrom, hview, hout, hin, Nat.even_add_one]
  · cases arrived <;> simp [inViewFrom, lostFrom, hview, hout, hin, Nat.even_add_one]

/-- Who is never announced as appearing never comes into view. -/
theorem inViewFrom_eq_false {told : List (EventKind × Bool)}
    (h : EventKind.spawn ∉ told.map Prod.fst) : inViewFrom false told = false := by
  induction told with
  | nil => rfl
  | cons p told ih =>
    rw [List.map_cons, List.mem_cons, not_or] at h
    have hp : (if p.2 then decide (p.1 = .spawn) else false) = false := by
      simp [Ne.symm h.1]
    rw [inViewFrom, List.foldl_cons, hp]
    exact ih h.2

end Pair

namespace Game

section Visit

variable {g : Game} {zid : ZoneID} {sim : ZoneSim} {o : EntityID} {r : ℕ} {order : VisitOrder}
  {visible : Dict EntityID Unit} {new : List Attempt}

/-- Where a visit changes the record about another entity, it tells so once. -/
theorem tale_visit (hcoh : Coherent g.toStore) (hsim : g.zones.get zid = some sim)
    (hr : sim.entities.get o = some r)
    (hnew : new.map Prod.fst = g.differences sim order o r visible) {x : EntityID}
    (hghost : isGhostID x = false) (hx : x ≠ o) :
    tale o x new = [] ∧ (x ∈ g.inRange sim r ↔ (visible.get x).isSome) ∨
      (∃ arrived, tale o x new = [(.spawn, arrived)]) ∧ ¬ (visible.get x).isSome ∧
        x ∈ g.inRange sim r ∨
      (∃ arrived, tale o x new = [(.despawn, arrived)]) ∧ (visible.get x).isSome ∧
        x ∉ g.inRange sim r := by
  have hstory : story o x (new.map Prod.fst) = _ :=
    hnew ▸ story_differences hcoh hsim hr order visible o x
  by_cases hin : x ∈ g.inRange sim r
  · obtain ⟨rx, -, hlive⟩ := live_of_mem_inRange hcoh hsim hin hghost
    cases hvis : visible.get x with
    | some _ => exact .inl ⟨by simp [tale_eq_nil_iff, hstory, hin, hvis], by simp [hin]⟩
    | none =>
      refine .inr (.inl ⟨exists_tale_eq_singleton ?_, by simp, hin⟩)
      simp [hstory, hin, hvis, hx, hlive]
  · cases hvis : visible.get x with
    | none => exact .inl ⟨by simp [tale_eq_nil_iff, hstory, hin, hvis], by simp [hin]⟩
    | some _ =>
      refine .inr (.inr ⟨exists_tale_eq_singleton ?_, by simp, hin⟩)
      simp [hstory, hin, hvis]

/-- Neither a replica nor the observer itself is announced as appearing. -/
theorem spawn_notMem_tale (hcoh : Coherent g.toStore) (hsim : g.zones.get zid = some sim)
    (hr : sim.entities.get o = some r)
    (hnew : new.map Prod.fst = g.differences sim order o r visible) {x : EntityID}
    (hx : ¬ (isGhostID x = false ∧ x ≠ o)) : EventKind.spawn ∉ (tale o x new).map Prod.fst := by
  have hnot : ¬ (x ≠ o ∧ (g.entities.get x).isSome) := by
    rintro ⟨hne, hlive⟩
    obtain ⟨rx, hrx⟩ := Option.isSome_iff_exists.mp hlive
    exact hx ⟨hcoh.not_ghost x rx hrx, hne⟩
  rw [map_fst_tale, hnew, story_differences hcoh hsim hr, if_neg fun hcond => hnot hcond.2.2.2]
  split_ifs <;> simp

theorem tale_visit_of_ne (hcoh : Coherent g.toStore) (hsim : g.zones.get zid = some sim)
    (hr : sim.entities.get o = some r)
    (hnew : new.map Prod.fst = g.differences sim order o r visible) {p : EntityID} (hp : p ≠ o)
    (x : EntityID) : tale p x new = [] := by
  rw [tale_eq_nil_iff, hnew, story_differences hcoh hsim hr]
  simp [Ne.symm hp]

end Visit

/-- A game, all announcements so far with what became of them, and for every
entity how many there had been when it was last added. -/
structure Ledger where
  game : Game
  attempts : List Attempt
  joined : EntityID → ℕ

namespace Ledger

def new (sid : ServerID) : Ledger := ⟨Game.new sid, [], fun _ => 0⟩

/-- A call, and for each of its announcements whether the channel takes it. -/
def step (H : Host) (t : Ledger) (c : NodeCall × (ℕ → Bool)) : Ledger where
  game := t.game.nodeStep H c.1
  attempts := t.attempts ++ (t.game.announced c.1).mapIdx fun i evt => (evt, c.2 i)
  joined :=
    match t.game.addedBy c.1 with
    | some e => Function.update t.joined e.id t.attempts.length
    | none => t.joined

def since (t : Ledger) (o : EntityID) : List Attempt := t.attempts.drop (t.joined o)

/-- What the announcements that arrived since the client was added amount to. -/
def view (t : Ledger) (o : EntityID) : Finset EntityID := clientView o (delivered (t.since o))

/-- The announcements about `x` that the client missed since it received one, or
since it was added. -/
def missed (t : Ledger) (o x : EntityID) : ℕ := lostFrom 0 (tale o x (t.since o))

/-- Every client that exists is right about another entity if and only if it
missed an even number of announcements. -/
structure Tallied (t : Ledger) : Prop where
  joined_le : ∀ o, t.joined o ≤ t.attempts.length
  announcements : ∀ out ∈ t.attempts, out.1.IsAnnouncement
  view_iff : ∀ o st, t.game.entityAOI.get o = some st → ∀ x,
    x ∈ t.view o ↔ (isGhostID x = false ∧ x ≠ o) ∧
      ((st.visible.get x).isSome ↔ Even (t.missed o x))

section Append

variable {t : Ledger} {g' : Game} {new : List Attempt} {o : EntityID}

theorem since_append (hle : t.joined o ≤ t.attempts.length) :
    since ⟨g', t.attempts ++ new, t.joined⟩ o = t.since o ++ new :=
  List.drop_append_of_le_length hle

theorem mem_view_append (hle : t.joined o ≤ t.attempts.length)
    (hann : ∀ out ∈ new, out.1.IsAnnouncement) (x : EntityID) :
    x ∈ view ⟨g', t.attempts ++ new, t.joined⟩ o ↔
      inViewFrom (decide (x ∈ t.view o)) (tale o x new) = true := by
  rw [view, since_append hle, delivered_append, clientView, List.foldl_append]
  exact mem_foldl_delivered_iff hann _

theorem missed_append (hle : t.joined o ≤ t.attempts.length) (x : EntityID) :
    missed ⟨g', t.attempts ++ new, t.joined⟩ o x = lostFrom (t.missed o x) (tale o x new) := by
  rw [missed, since_append hle, tale_append, lostFrom_append, missed]

end Append

namespace Tallied

variable {t : Ledger} {g' : Game}

theorem empty (sid : ServerID) : Tallied (new sid) :=
  ⟨by simp [new], by simp [new], by simp [new, Game.new, Store.empty]⟩

/-- Nothing is announced, and entities may disappear. -/
theorem silent (h : Tallied t)
    (haoi : ∀ o st, g'.entityAOI.get o = some st → t.game.entityAOI.get o = some st) :
    Tallied ⟨g', t.attempts, t.joined⟩ :=
  ⟨h.joined_le, h.announcements, fun o st hst x => h.view_iff o st (haoi o st hst) x⟩

/-- A new client has missed nothing. -/
theorem addEntity (h : Tallied t) (e : Entity)
    (haoi : g'.entityAOI = (t.game.toStore.addEntity e).entityAOI) :
    Tallied ⟨g', t.attempts, Function.update t.joined e.id t.attempts.length⟩ := by
  constructor
  case joined_le =>
    intro o
    by_cases ho : o = e.id
    · simp [ho]
    · simpa [ho] using h.joined_le o
  case announcements => exact h.announcements
  case view_iff =>
    intro o st hst x
    rw [haoi, entityAOI_addEntity] at hst
    split_ifs at hst with ho
    · cases hst
      simp [view, missed, since, ho, delivered, tale, clientView, lostFrom]
    · have hsame : since ⟨g', t.attempts, Function.update t.joined e.id t.attempts.length⟩ o =
          t.since o := by simp [since, ho]
      simp only [view, missed, hsame]
      exact h.view_iff o st hst x

variable {zid : ZoneID} {sim : ZoneSim} {o : EntityID} {r : ℕ} {new : List Attempt}

/-- A visit changes the record and announces the change; either both the record
and the view change, or the record changes and one more announcement is lost. -/
theorem visit (h : Tallied t) (hcoh : Coherent t.game.toStore)
    (hsim : t.game.zones.get zid = some sim) (hr : sim.entities.get o = some r)
    (order : VisitOrder) (hnew : new.map Prod.fst = t.game.visitEvents sim order o) :
    Tallied ⟨t.game.visitObserver sim order o, t.attempts ++ new, t.joined⟩ := by
  obtain ⟨st, hst⟩ := exists_record hcoh hsim hr
  rw [visitEvents_eq hr hst] at hnew
  have hann : ∀ out ∈ new, out.1.IsAnnouncement := fun out hout =>
    isAnnouncement_of_mem_differences (hnew ▸ List.mem_map_of_mem hout)
  constructor
  case joined_le =>
    intro p
    have := h.joined_le p
    simp only [List.length_append]
    omega
  case announcements =>
    intro out hout
    rcases List.mem_append.mp hout with hout | hout
    · exact h.announcements out hout
    · exact hann out hout
  case view_iff =>
    intro p stp hstp x
    rw [mem_view_append (h.joined_le p) hann, missed_append (h.joined_le p)]
    simp only [visitObserver_eq hcoh hsim hr hst order, Dict.get_set] at hstp
    split_ifs at hstp with hp
    · subst hp
      cases hstp
      have hold := h.view_iff p st hst x
      rw [seen, Dict.isSome_get_ofList]
      -- replicas are recorded too, and never announced as appearing
      by_cases hother : isGhostID x = false ∧ x ≠ p
      · simp only [hother, ne_eq, not_false_eq_true, and_self, true_and] at hold ⊢
        exact inViewFrom_iff (by simpa using hold)
          (tale_visit hcoh hsim hr hnew hother.1 hother.2)
      · have hunseen : decide (x ∈ t.view p) = false := by simp [hold, hother]
        have hspawn := spawn_notMem_tale hcoh hsim hr hnew hother
        simp [hunseen, inViewFrom_eq_false hspawn, hother]
    · have hnil := tale_visit_of_ne hcoh hsim hr hnew hp x
      simpa [hnil, inViewFrom, lostFrom] using h.view_iff p stp hstp x

theorem visits {ids : List EntityID} (hids : ∀ id ∈ ids, (sim.entities.get id).isSome)
    (order : VisitOrder) {t : Ledger} (h : Tallied t) (hcoh : Coherent t.game.toStore)
    (hsim : t.game.zones.get zid = some sim) {new : List Attempt}
    (hnew : new.map Prod.fst = loopEvents sim order t.game ids) :
    Tallied ⟨ids.foldl (visitObserver sim order) t.game, t.attempts ++ new, t.joined⟩ := by
  induction ids generalizing t new with
  | nil =>
    obtain rfl : new = [] := by simpa [loopEvents] using hnew
    simpa using h
  | cons id ids ih =>
    obtain ⟨r, hr⟩ := Option.isSome_iff_exists.mp (hids id List.mem_cons_self)
    obtain ⟨hcoh', hzones⟩ := coherent_visitObserver hcoh hsim order id
    obtain ⟨first, rest, rfl, hfirst, hrest⟩ := List.map_eq_append_iff.mp hnew
    have hvisit := h.visit hcoh hsim hr order hfirst
    rw [List.foldl_cons, ← List.append_assoc]
    exact ih (fun id hid => hids id (List.mem_cons_of_mem _ hid)) hvisit hcoh' (hzones ▸ hsim) hrest

end Tallied

theorem map_fst_mapIdx (evts : List Event) (keep : ℕ → Bool) :
    (evts.mapIdx fun i evt => (evt, keep i)).map Prod.fst = evts :=
  List.ext_getElem (by simp) (by simp)

theorem tallied_step (H : Host) {t : Ledger} {c : NodeCall × (ℕ → Bool)} (h : Tallied t)
    (hcoh : Coherent t.game.toStore) (hc : t.game.OwnAdmissible c.1) : Tallied (t.step H c) := by
  obtain ⟨c, keep⟩ := c
  cases hadd : t.game.addedBy c with
  | some e =>
    cases c with
    | own c =>
      have hnone := announced_of_added hadd
      have hstep : t.step H (.own c, keep) = ⟨t.game.step H c, t.attempts,
          Function.update t.joined e.id t.attempts.length⟩ := by
        simp [step, hnone, hadd, nodeStep]
      rw [hstep]
      exact h.addEntity e (by rw [toStore_step_of_added H hadd])
    | _ => cases hadd
  | none =>
    have hstep : t.step H (c, keep) = ⟨t.game.nodeStep H c, t.attempts ++
        (t.game.announced c).mapIdx fun i evt => (evt, keep i), t.joined⟩ := by
      simp [step, hadd]
    have hsilent : t.game.announced c = [] → (∀ o st,
        (t.game.nodeStep H c).entityAOI.get o = some st → t.game.entityAOI.get o = some st) →
        Tallied (t.step H (c, keep)) := fun hnone haoi => by
      simpa [hstep, hnone] using h.silent haoi
    have hunseen : (∀ c', c ≠ .own c') → ∀ o st,
        (t.game.nodeStep H c).entityAOI.get o = some st → t.game.entityAOI.get o = some st :=
      fun hne o st hst => (Watched.nodeStep_unseen H t.game hne).2.1 ▸ hst
    cases c with
    | own c =>
      cases c with
      | updateVisibility zid order =>
        rw [hstep]
        have hnew := map_fst_mapIdx (t.game.announced (.own (.updateVisibility zid order))) keep
        simp only [nodeStep, Game.step, updateVisibility, announced] at hnew ⊢
        cases hsim : t.game.zones.get zid with
        | none => simpa using h
        | some sim =>
          simp only [hsim] at hnew ⊢
          exact .visits (fun id hid => (Dict.mem_range_iff _ _ _).mp hid) order h hcoh hsim hnew
      | _ => exact hsilent rfl fun o st hst =>
          entityAOI_step H hc (by simpa [added, addedBy] using hadd) (by simp) hst
    | _ => exact hsilent rfl (hunseen (by simp))

@[simp] theorem game_exec (H : Host) (t : Ledger) (run : List (NodeCall × (ℕ → Bool))) :
    (exec (step H) t run).game = exec (nodeStep H) t.game (run.map Prod.fst) := by
  rw [exec_map]
  exact proj_exec Ledger.game (fun _ _ => rfl) t run

theorem tallied_exec (H : Host) (sid : ServerID) {run : List (NodeCall × (ℕ → Bool))}
    (h : Along (nodeStep H) OwnAdmissible (Game.new sid) (run.map Prod.fst)) :
    Tallied (exec (step H) (new sid) run) := by
  rw [along_map_iff] at h
  have hproj : ∀ t c, (step H t c).game = nodeStep H t.game c.1 := fun _ _ => rfl
  have hlift := h.lift Ledger.game hproj (t := new sid)
  refine (exec_invariant (fun t : Ledger => Tallied t ∧ Coherent t.game.toStore ∧
    Sound t.game.toStore) ?_ ⟨.empty sid, Coherent.empty, Sound.empty⟩ hlift).1
  rintro t c ⟨htallied, hcoh, hsound⟩ hc
  exact ⟨tallied_step H htallied hcoh hc, coherent_nodeStep H hcoh hsound hc,
    sound_nodeStep H hsound c.1⟩

/-- A tick during which the channel takes everything. -/
def tick (H : Host) (inp : TickInput) (t : Ledger) : Ledger :=
  exec (step H) t ((tickCalls H inp t.game).map fun c => (.own c, fun _ => true))

end Ledger

/-- After a tick that loses nothing, whatever was lost before it, what a client
was told amounts to the other entities within the radius if and only if it missed
an even number of announcements about each of them. -/
theorem staleness_repaired_iff (H : Host) (sid : ServerID) (run : List (NodeCall × (ℕ → Bool)))
    (inp : TickInput) (hrun : Along (nodeStep H) OwnAdmissible (new sid) (run.map Prod.fst))
    (htick : Along (step H) Admissible (exec (nodeStep H) (new sid) (run.map Prod.fst))
      (tickCalls H inp (exec (nodeStep H) (new sid) (run.map Prod.fst)))) :
    let t := exec (Ledger.step H) (Ledger.new sid) run
    let t' := t.tick H inp
    t'.game = Game.tick H inp t.game ∧
      ∀ z sim o ro, t'.game.zones.get z = some sim → sim.entities.get o = some ro →
        ((∀ x, x ∈ t'.view o ↔ x ≠ o ∧ ∃ rx, sim.entities.get x = some rx ∧
          distSq (t'.game.objects.cell rx).position (t'.game.objects.cell ro).position ≤
            t'.game.aoiRadius * t'.game.aoiRadius) ↔
        ∀ x, x ≠ o → isGhostID x = false → Even (t'.missed o x)) := by
  intro t t'
  set g := exec (nodeStep H) (new sid) (run.map Prod.fst) with hg
  have hgame : t.game = g := Ledger.game_exec H _ run
  let ticking := (tickCalls H inp t.game).map fun c => (NodeCall.own c, fun _ : ℕ => true)
  have hcalls : ticking.map Prod.fst = (tickCalls H inp g).map NodeCall.own := by
    simp [ticking, hgame]
  have hown : ∀ cs : List Call, exec (nodeStep H) g (cs.map .own) = exec (step H) g cs :=
    fun cs => exec_map _ g cs
  have hgame' : t'.game = Game.tick H inp g := by
    have := Ledger.game_exec H t ticking
    rw [hcalls, hgame, hown, exec_tickCalls] at this
    exact this
  -- the tick is the end of a longer run, so the tally holds after it as well
  have hall : Along (nodeStep H) OwnAdmissible (new sid) ((run ++ ticking).map Prod.fst) := by
    rw [List.map_append, along_append, hcalls]
    exact ⟨hrun, (along_map_iff _ _ _).mpr htick⟩
  have htallied : Ledger.Tallied t' := by
    have hrun' := Ledger.tallied_exec H sid hall
    rwa [exec_append] at hrun'
  have hcoh : Coherent g.toStore := coherent_nodeExec H sid hrun
  have hcoh' : Coherent t'.game.toStore := by
    have := coherent_nodeExec H sid hall
    rw [List.map_append, exec_append, hcalls, hown, exec_tickCalls, ← hgame'] at this
    exact this
  refine ⟨by rw [hgame', hgame], fun z sim o ro hsim hro => ?_⟩
  obtain ⟨st, hst⟩ := exists_record hcoh' hsim hro
  have hfresh : UpToDate t'.game z := hgame' ▸ upToDate_tick H inp hcoh htick z
  simp only [htallied.view_iff o st hst, ← hfresh sim o ro st hsim hro hst]
  refine forall_congr' fun x => ?_
  by_cases hother : x ≠ o ∧ isGhostID x = false
  · by_cases hvisible : (st.visible.get x).isSome <;> simp [hother, hvisible]
  · exact iff_of_true (iff_of_false (fun h => hother h.1.symm) fun h => hother ⟨h.1, h.2.2⟩)
      fun hne hghost => absurd ⟨hne, hghost⟩ hother

/-- Two clients meet and neither learns of it; the next tick has nothing to add. -/
theorem staleness_repaired_iff_lost :
    let H := namingHost "e1"
    let run : List (NodeCall × (ℕ → Bool)) := (twoClients ++ [look]).map (·, fun _ => false)
    let t := exec (Ledger.step H) (Ledger.new "gs-1") run
    let t' := t.tick H (.reading second)
    t.missed "e1" "e2" = 1 ∧ t'.game = Game.tick H (.reading second) t.game ∧
      ∀ z sim o ro, t'.game.zones.get z = some sim → sim.entities.get o = some ro →
        ((∀ x, x ∈ t'.view o ↔ x ≠ o ∧ ∃ rx, sim.entities.get x = some rx ∧
          distSq (t'.game.objects.cell rx).position (t'.game.objects.cell ro).position ≤
            t'.game.aoiRadius * t'.game.aoiRadius) ↔
        ∀ x, x ≠ o → isGhostID x = false → Even (t'.missed o x)) := by
  intro H run
  have hfst : run.map Prod.fst = twoClients ++ [look] := by
    simp only [run, List.map_map, Function.comp_def, List.map_id']
  have hadmissible : Along (nodeStep H) OwnAdmissible (new "gs-1") (twoClients ++ [look]) := by
    decide +kernel
  have hidle : Unattended (exec (nodeStep H) (new "gs-1") (twoClients ++ [look])) := by
    decide +kernel
  rw [← hfst] at hadmissible hidle
  exact ⟨by decide +kernel, staleness_repaired_iff H "gs-1" run (.reading second) hadmissible
    (hidle.admissible_tick H (.reading second))⟩

namespace Ledger

/-- The ledger and the history of the channel have the same announcements. -/
structure Agrees (t : Ledger) (w : Watched) : Prop where
  game : t.game = w.game
  joined_le : ∀ o, t.joined o ≤ t.attempts.length
  joined_le_sent : ∀ o, w.joined o ≤ w.game.events.sent.length
  since : ∀ o, delivered (t.since o) = (w.since o).filter (decide ·.IsAnnouncement)

theorem delivered_mapIdx (evts : List Event) (n : ℕ) :
    delivered (evts.mapIdx fun i evt => (evt, decide (i < n))) = evts.take n := by
  induction evts generalizing n with
  | nil => simp [delivered]
  | cons evt evts ih =>
    cases n with
    | zero =>
      simp [delivered]
    | succ n =>
      have hrest := ih n
      simp only [delivered] at hrest
      simp [delivered, List.mapIdx_cons, hrest]

namespace Agrees

variable {t : Ledger} {w : Watched}

theorem append (h : Agrees t w) {g' : Game} {new : List Attempt} {evts : List Event}
    (hsent : g'.events.sent = w.game.events.sent ++ evts)
    (hnew : delivered new = evts.filter (decide ·.IsAnnouncement)) :
    Agrees ⟨g', t.attempts ++ new, t.joined⟩ ⟨g', w.joined⟩ := by
  refine ⟨rfl, fun o => ?_, fun o => ?_, fun o => ?_⟩
  · have := h.joined_le o
    simp only [List.length_append]
    omega
  · have := h.joined_le_sent o
    simp only [hsent, List.length_append]
    omega
  · rw [since_append (h.joined_le o), delivered_append, h.since o, hnew, Watched.since, Watched.since,
      hsent, List.drop_append_of_le_length (h.joined_le_sent o), List.filter_append]

theorem addEntity (h : Agrees t w) {g' : Game} (hsent : g'.events.sent = w.game.events.sent)
    (id : EntityID) :
    Agrees ⟨g', t.attempts, Function.update t.joined id t.attempts.length⟩
      ⟨g', Function.update w.joined id w.game.events.sent.length⟩ := by
  refine ⟨rfl, fun o => ?_, fun o => ?_, fun o => ?_⟩
  · by_cases ho : o = id
    · simp [ho]
    · simpa [ho] using h.joined_le o
  · by_cases ho : o = id
    · simp [ho, hsent]
    · simpa [ho, hsent] using h.joined_le_sent o
  · by_cases ho : o = id
    · simp [Ledger.since, Watched.since, ho, hsent, delivered]
    · simpa [Ledger.since, Watched.since, ho, hsent] using h.since o

theorem view_eq (h : Agrees t w) (o : EntityID) : t.view o = w.view o := by
  have hfilter : ∀ (evts : List Event) (view : Finset EntityID),
      (evts.filter (decide ·.IsAnnouncement)).foldl (observe o) view =
        evts.foldl (observe o) view := by
    intro evts
    induction evts with
    | nil => exact fun _ => rfl
    | cons evt evts ih =>
      intro view
      by_cases hann : evt.IsAnnouncement
      · simp [hann, ih]
      · have hsame : observe o view evt = view := by
          unfold Event.IsAnnouncement at hann
          cases hkind : evt.kind <;> simp_all [observe]
        simp [hann, ih, hsame]
  rw [view, h.since o]
  exact hfilter _ _

/-- The channel is one way of losing announcements: those for which it has no
room. -/
theorem step (h : Agrees t w) (H : Host) (c : NodeCall) (hcoh : Coherent w.game.toStore) :
    ∃ keep, Agrees (t.step H (c, keep)) (w.nodeStep H c) := by
  obtain ⟨g, tries, joined⟩ := t
  obtain rfl : g = w.game := h.game
  -- the channel keeps the first announcements of a call, as many as it has room for
  refine ⟨fun i => decide (i < w.game.room), ?_⟩
  cases hadd : w.game.addedBy c with
  | some e =>
    cases c with
    | own c =>
      have hnone := announced_of_added hadd
      have hadd : w.game.addedEntity c = some e := hadd
      simpa [Ledger.step, Watched.nodeStep, Watched.step, hnone, addedBy, added, hadd,
        Game.nodeStep] using h.addEntity (silent_of_added H hadd).1 e.id
    | _ => cases hadd
  | none =>
    have hjoined : w.nodeStep H c = ⟨w.game.nodeStep H c, w.joined⟩ := by
      cases c with
      | own c =>
        have hadd : w.game.addedEntity c = none := hadd
        simp [Watched.nodeStep, Watched.step, added, hadd, Game.nodeStep]
      | _ => rfl
    have hstep : Ledger.step H ⟨w.game, tries, joined⟩ (c, fun i => decide (i < w.game.room)) =
        ⟨w.game.nodeStep H c, tries ++ (w.game.announced c).mapIdx fun i evt =>
          (evt, decide (i < w.game.room)), joined⟩ := by
      simp [Ledger.step, hadd]
    obtain ⟨evts, hsent, hnew⟩ := exists_published H w.game c hcoh
    rw [hstep, hjoined]
    exact h.append hsent (by rw [delivered_mapIdx, hnew])

end Agrees

/-- Every run of the server is a run with some losses. -/
theorem exists_losses (H : Host) (sid : ServerID) (calls : List NodeCall)
    (h : Along (nodeStep H) OwnAdmissible (Game.new sid) calls) :
    ∃ run : List (NodeCall × (ℕ → Bool)), run.map Prod.fst = calls ∧ ∀ o,
      (exec (step H) (new sid) run).view o =
        (exec (Watched.nodeStep H) (Watched.new sid) calls).view o := by
  have hrun : ∀ (calls : List NodeCall) (t : Ledger) (w : Watched), Agrees t w →
      Coherent w.game.toStore → Sound w.game.toStore →
      Along (nodeStep H) OwnAdmissible w.game calls →
      ∃ run : List (NodeCall × (ℕ → Bool)), run.map Prod.fst = calls ∧
        Agrees (exec (step H) t run) (exec (Watched.nodeStep H) w calls) := by
    intro calls
    induction calls with
    | nil => exact fun t w hagrees _ _ _ => ⟨[], rfl, hagrees⟩
    | cons c calls ih =>
      intro t w hagrees hcoh hsound halong
      obtain ⟨keep, hnext⟩ := hagrees.step H c hcoh
      have hgame := Watched.game_nodeStep H w c
      obtain ⟨run, rfl, hrest⟩ := ih _ _ hnext
        (hgame ▸ coherent_nodeStep H hcoh hsound halong.1) (hgame ▸ sound_nodeStep H hsound c)
        (hgame ▸ halong.2)
      exact ⟨(c, keep) :: run, rfl, hrest⟩
  have hstart : Agrees (new sid) (Watched.new sid) :=
    ⟨rfl, by simp [new], by simp [Watched.new], by simp [Ledger.since, Watched.since, new,
      Watched.new, Game.new, Chan.make, delivered]⟩
  obtain ⟨run, hfst, hagrees⟩ := hrun calls _ _ hstart Coherent.empty Sound.empty h
  exact ⟨run, hfst, hagrees.view_eq⟩

end Ledger

/-! ## A lost announcement -/

/-- A state message as a client sends it, with an empty payload. -/
def stateMessage : Bytes := [1, 0, 8, 0, 0, 0, 0, 0]

theorem request_stateMessage (id : EntityID) :
    Wire.request (namingHost id).codec stateMessage = some (.state ⟨id⟩ []) := by
  simp [stateMessage, Wire.request, Wire.decode, namingHost, Wire.protocolVersionV1,
    Wire.packetIDPositionUpdate, Wire.packetIDEntityAction, Wire.packetIDEntityState]

/-- Two clients meet after the first has announced its state so many times. -/
def crowdedMeeting (n : ℕ) : List NodeCall :=
  twoClients ++ chatter ⟨"e1", stateMessage⟩ n ++ [look]

theorem game_crowdedMeeting (H : Host) (sid : ServerID) (n : ℕ) :
    (exec (Watched.nodeStep H) (Watched.new sid) (crowdedMeeting n)).game =
      (exec (nodeStep H) (exec (nodeStep H) (new sid) twoClients)
        (chatter ⟨"e1", stateMessage⟩ n)).updateVisibility "z1" .any := by
  rw [proj_exec Watched.game (Watched.game_nodeStep H), crowdedMeeting, exec_append, exec_append]
  rfl

/-- Two clients in one place, and nothing left to do. -/
theorem exec_twoClients :
    let g := exec (nodeStep (namingHost "e1")) (new "gs-1") twoClients
    ((g.entityOf "e1").map g.audience = some ["e2"] ∧ g.inbox.recv = none ∧ 0 < g.inbox.cap) ∧
      (inboxBufferSize = g.room ∧ g.events.sent = [] ∧ g.eventsDropped = 0) ∧
      Unattended g ∧ Still g ∧ g.zones.range [] = ["z1"] ∧
      (g.announced (.own (.updateVisibility "z1" .any))).length = 2 ∧
      ((g.updateVisibility "z1" .any).detectZoneBoundaries "z1" (fun _ => second) []).announced
        (.own (.updateVisibility "z1" .any)) = [] ∧
      ∃ sim ∈ g.zones.get "z1", ∃ r₁ ∈ sim.entities.get "e1", ∃ r₂ ∈ sim.entities.get "e2",
        distSq (g.objects.cell r₂).position (g.objects.cell r₁).position ≤
          g.aoiRadius * g.aoiRadius := by
  decide +kernel

/-- However the clients came to be listening, the first does not learn of the
second, who stands in the same place. -/
theorem unknown_after_crowd {t : Watched}
    (hgame : t.game = (exec (nodeStep (namingHost "e1"))
      (exec (nodeStep (namingHost "e1")) (new "gs-1") twoClients)
      (chatter ⟨"e1", stateMessage⟩ inboxBufferSize)).updateVisibility "z1" .any) :
    let g := tick (namingHost "e1") (.reading second) t.game
    t.game.eventsDropped = 2 ∧ g.eventsDropped = t.game.eventsDropped ∧
      "e2" ∉ clientView "e1" (g.events.sent.drop (t.joined "e1")) ∧
      ∃ sim ∈ g.zones.get "z1", ∃ r₁ ∈ sim.entities.get "e1", ∃ r₂ ∈ sim.entities.get "e2",
        distSq (g.objects.cell r₂).position (g.objects.cell r₁).position ≤
          g.aoiRadius * g.aoiRadius := by
  -- the two clients are evaluated, the rounds that fill the channel never are
  obtain ⟨⟨haudience, hinbox, hcap⟩, ⟨hroom, hempty, hzero⟩, hidle, hstill, hzones, hmet, hsettled,
    hplaces⟩ := exec_twoClients
  have hcoh : Coherent (exec (nodeStep (namingHost "e1")) (new "gs-1") twoClients).toStore :=
    coherent_nodeExec _ "gs-1" (by decide +kernel)
  generalize exec (nodeStep (namingHost "e1")) (new "gs-1") twoClients = g₀ at *
  rw [hroom] at hgame
  obtain ⟨e, he, haudience⟩ := Option.map_eq_some_iff.mp haudience
  have hchatty : Chatty (namingHost "e1") ⟨"e1", stateMessage⟩ g₀ :=
    ⟨⟨⟨"e1"⟩, [], e, "e2", request_stateMessage "e1", he, haudience⟩, hinbox, hcap⟩
  obtain ⟨hdropped, hpub, ⟨hsent, hcount⟩, hz, ho, hr⟩ := tick_after_crowd (.reading second) hcoh
    hchatty hidle hstill hzones hsettled hgame
  obtain ⟨evts, hevts, hupd⟩ := hpub.sent
  rw [hzero, Nat.zero_add] at hdropped
  refine ⟨hdropped.trans hmet, hcount, ?_, ?_⟩
  · rw [hsent, hevts, hempty, List.nil_append, clientView, foldl_observe_of_unrelated
      fun evt hevt => .inr (hupd evt (List.mem_of_mem_drop hevt))]
    exact Finset.notMem_empty _
  · rw [hz, ho, hr]
    exact hplaces

/-- The tick after a meeting with a full channel loses nothing and repairs nothing. -/
theorem lost_spawn_not_repaired :
    let H := namingHost "e1"
    let t := exec (Watched.nodeStep H) (Watched.new "gs-1") (crowdedMeeting inboxBufferSize)
    let g := tick H (.reading second) t.game
    t.game.eventsDropped = 2 ∧ g.eventsDropped = t.game.eventsDropped ∧
      "e2" ∉ clientView "e1" (g.events.sent.drop (t.joined "e1")) ∧
      ∃ sim ∈ g.zones.get "z1", ∃ r₁ ∈ sim.entities.get "e1", ∃ r₂ ∈ sim.entities.get "e2",
        distSq (g.objects.cell r₂).position (g.objects.cell r₁).position ≤
          g.aoiRadius * g.aoiRadius :=
  unknown_after_crowd (game_crowdedMeeting (namingHost "e1") "gs-1" inboxBufferSize)

end Game

end SpatialServer

import SpatialServer.TickPictures

/-!
# Loops over pictures in any order

Each iteration of a loop of the tick edits what belongs to its own entity, so
that two iterations commute if different entities have nothing in common: no
object, no replica name, and no zone whose observers the other one changes. In
pictures where every entity lives in one zone this is so.
-/
namespace SpatialServer.Game

namespace Picture

/-- What makes the iterations of different entities independent. -/
structure Tidy (P : Picture) : Prop where
  object_inj : ∀ id id' r, P.entities id = some r → P.entities id' = some r → id = id'
  member_id : ∀ z sim id r, P.zones.get z = some sim → sim.entities.get id = some r →
    (P.objects r).id = id
  grid_inj : ∀ z z' sim sim', P.zones.get z = some sim → P.zones.get z' = some sim' →
    sim.aoi = sim'.aoi → z = z'
  home : ∀ z z' sim sim' id, P.zones.get z = some sim → P.zones.get z' = some sim' →
    (sim.entities.get id).isSome → (sim'.entities.get id).isSome → z = z'

variable {P Q : Picture}

theorem Tidy.congr (h : P.Tidy) (hzones : Q.zones = P.zones) (hentities : Q.entities = P.entities)
    (hids : ∀ r, (Q.objects r).id = (P.objects r).id) : Q.Tidy := by
  obtain ⟨h₁, h₂, h₃, h₄⟩ := h
  constructor <;> simpa only [hzones, hentities, hids]

/-- An edit that renames no object and deletes no entity. -/
def Edit.Mild (P : Picture) : Edit → Prop
  | .object r e => e.id = (P.objects r).id
  | .forget _ => False
  | _ => True

theorem Tidy.applyAll (h : P.Tidy) {es : List Edit} (hes : ∀ e ∈ es, e.Mild P) :
    (P.applyAll es).Tidy := by
  have hframe : (P.applyAll es).zones = P.zones ∧ (P.applyAll es).entities = P.entities ∧
      ∀ r, ((P.applyAll es).objects r).id = (P.objects r).id := by
    refine Reordering.foldl_invariant (I := fun Q : Picture => Q.zones = P.zones ∧
      Q.entities = P.entities ∧ ∀ r, (Q.objects r).id = (P.objects r).id)
      (fun e he Q hQ => ?_) ⟨rfl, rfl, fun _ => rfl⟩
    have hmild := hes e he
    cases e with
    | object q x =>
      refine ⟨hQ.1, hQ.2.1, fun r => ?_⟩
      by_cases hr : r = q
      · subst hr
        simp only [apply, Function.update_self]
        exact hmild
      · simpa [apply, hr] using hQ.2.2 r
    | forget id => exact hmild.elim
    | _ => exact hQ
  exact h.congr hframe.1 hframe.2.1 hframe.2.2

/-- A loop whose iterations are independent may visit its keys in any order. -/
theorem loop_perm {K : Type} {edits : Picture → K → List Edit} {ks ks' : List K}
    (hperm : ks.Perm ks') (I : Picture → Prop)
    (hkeep : ∀ P k, I P → I (P.applyAll (edits P k)))
    (hread : ∀ P a b, I P → a ≠ b → edits (P.applyAll (edits P b)) a = edits P a)
    (hapart : ∀ P a b, I P → a ≠ b → ∀ e ∈ edits P a, ∀ e' ∈ edits P b, e'.Apart e)
    (hP : I P) : P.loop edits ks = P.loop edits ks' :=
  Reordering.foldl_perm hperm (fun k _ P hP => hkeep P k hP)
    (fun a _ b _ hab P hP => applyAll_comm (edits · a) (edits · b) (hread P a b hP hab)
      (hread P b a hP hab.symm) (hapart P a b hP hab)) hP

/-! ## Edits about one identifier -/

def Edit.About (a : EntityID) : Edit → Prop
  | .object _ _ => False
  | .grid _ id _ | .ghost id _ | .sight id _ | .forget id => id = a

theorem Edit.About.apart {a b : EntityID} {e e' : Edit} (h : e.About a) (h' : e'.About b)
    (hab : a ≠ b) : e'.Apart e := by
  cases e <;> cases e' <;> simp only [About] at h h' <;> subst h h' <;>
    first | trivial | exact hab.symm

/-- What a sweep looks at in the row of an identifier. -/
structure SameRow (a : EntityID) (P Q : Picture) : Prop where
  zones : Q.zones = P.zones
  ghosts : Q.ghosts a = P.ghosts a
  expired : ∀ now, Q.expired now a = P.expired now a
  indexRefOf : Q.indexRefOf a = P.indexRefOf a

theorem SameRow.trans {a : EntityID} {P Q R : Picture} (h : SameRow a P Q) (h' : SameRow a Q R) :
    SameRow a P R :=
  ⟨h'.zones.trans h.zones, h'.ghosts.trans h.ghosts,
    fun now => (h'.expired now).trans (h.expired now), h'.indexRefOf.trans h.indexRefOf⟩

theorem SameRow.apply {a b : EntityID} {e : Edit} (h : e.About b) (hab : a ≠ b) (P : Picture) :
    SameRow a P (P.apply e) := by
  cases e <;> simp only [Edit.About] at h
  case ghost id entry =>
    subst h
    exact ⟨rfl, by simp [Picture.apply, hab], fun _ => rfl, rfl⟩
  case forget id =>
    subst h
    exact ⟨rfl, rfl, fun _ => by simp [Picture.expired, Picture.apply, hab],
      by simp [Picture.indexRefOf, Picture.apply, hab]⟩
  all_goals exact ⟨rfl, rfl, fun _ => rfl, rfl⟩

/-- A loop whose iterations edit and look at the row of their own identifier. -/
theorem loop_perm_of_about {edits : Picture → EntityID → List Edit}
    (habout : ∀ P a, ∀ e ∈ edits P a, e.About a)
    (hcongr : ∀ P Q a, SameRow a P Q → edits Q a = edits P a) {ids ids' : List EntityID}
    (hperm : ids.Perm ids') : P.loop edits ids = P.loop edits ids' := by
  refine loop_perm hperm (fun _ => True) (fun _ _ _ => trivial) (fun P a b _ hab => ?_)
    (fun P a b _ hab e he e' he' => (habout P a e he).apart (habout P b e' he') hab) trivial
  refine hcongr P _ a (Reordering.foldl_invariant (I := SameRow a P) (fun e he Q hQ => ?_)
    ⟨rfl, rfl, fun _ => rfl, rfl⟩)
  exact hQ.trans (.apply (habout P b e he) hab Q)

/-! ## Simulation -/

section Simulate

variable {N : Numerics} {dt : Duration} {seed : EntityID → ℤ} {a b : EntityID}

theorem mem_simulateEntity {e : Edit} (h : e ∈ P.simulateEntity N dt seed a) :
    (∃ r e', P.entities a = some r ∧ e'.id = (P.objects r).id ∧ e = .object r e') ∨
      ∃ ref f, e = .grid ref a f := by
  unfold simulateEntity at h
  split at h
  · cases h
  · next r hr =>
    dsimp only at h
    split_ifs at h
    · cases h
    · obtain rfl := List.mem_singleton.mp h
      exact .inl ⟨r, _, hr, by simp, rfl⟩
    · split at h
      · rcases List.mem_pair.mp h with rfl | rfl
        · exact .inl ⟨r, _, hr, by simp, rfl⟩
        · exact .inr ⟨_, _, rfl⟩
      · obtain rfl := List.mem_singleton.mp h
        exact .inl ⟨r, _, hr, by simp, rfl⟩

/-- The iteration looks at its own entity only. -/
theorem simulateEntity_congr (hentities : Q.entities = P.entities)
    (hobjects : ∀ r, P.entities a = some r → Q.objects r = P.objects r)
    (href : Q.gridRefOf a = P.gridRefOf a) :
    Q.simulateEntity N dt seed a = P.simulateEntity N dt seed a := by
  unfold simulateEntity
  rw [hentities]
  rcases hr : P.entities a with _ | r
  · rfl
  · simp only [hobjects r hr, href]

theorem simulateEntity_applyAll (h : P.Tidy) (hab : a ≠ b) :
    simulateEntity N dt seed (P.applyAll (P.simulateEntity N dt seed b)) a =
      P.simulateEntity N dt seed a := by
  refine simulateEntity_congr ?_ (fun r hr => ?_) ?_
  · exact read_applyAll Picture.entities (fun e he Q => by
      obtain ⟨r, e', -, -, rfl⟩ | ⟨ref, f, rfl⟩ := mem_simulateEntity he <;> rfl) P
  · refine read_applyAll (fun Q => Q.objects r) (fun e he Q => ?_) P
    obtain ⟨q, e', hq, -, rfl⟩ | ⟨ref, f, rfl⟩ := mem_simulateEntity he
    · have hne : r ≠ q := fun heq => hab (h.object_inj a b r hr (heq ▸ hq))
      simp [apply, hne]
    · rfl
  · exact read_applyAll (fun Q => Q.gridRefOf a) (fun e he Q => by
      obtain ⟨r, e', -, -, rfl⟩ | ⟨ref, f, rfl⟩ := mem_simulateEntity he <;> rfl) P

theorem tidy_simulateEntity (h : P.Tidy) (a : EntityID) :
    (P.applyAll (P.simulateEntity N dt seed a)).Tidy := by
  refine h.applyAll fun e he => ?_
  obtain ⟨r, e', -, hid, rfl⟩ | ⟨ref, f, rfl⟩ := mem_simulateEntity he
  · exact hid
  · trivial

theorem simulate_perm (h : P.Tidy) {ids ids' : List EntityID} (hperm : ids.Perm ids') :
    P.loop (simulateEntity N dt seed) ids = P.loop (simulateEntity N dt seed) ids' := by
  refine loop_perm hperm Tidy (fun P a hP => tidy_simulateEntity hP a)
    (fun P a b hP hab => simulateEntity_applyAll hP hab) (fun P a b hP hab e he e' he' => ?_) h
  obtain ⟨r, x, hr, -, rfl⟩ | ⟨ref, f, rfl⟩ := mem_simulateEntity he <;>
    obtain ⟨q, y, hq, -, rfl⟩ | ⟨ref', f', rfl⟩ := mem_simulateEntity he'
  · exact fun heq => hab (hP.object_inj a b r hr (heq ▸ hq))
  · trivial
  · trivial
  · exact hab.symm

end Simulate

/-! ## Zones -/

theorem cellSize_apply (P : Picture) (e : Edit) (ref : ℕ) :
    ((P.apply e).grids ref).cellSize = (P.grids ref).cellSize := by
  cases e with
  | grid ref' id f =>
    by_cases href : ref = ref'
    · subst href
      simp [apply, AOI.Picture.edit]
    · simp [apply, href]
  | _ => rfl

section Zones

variable {zid zid' : ZoneID} {sim sim' : ZoneSim} {now now' : EntityID → Time} {a b : EntityID}

theorem mem_detectEntity {e : Edit} (h : e ∈ P.detectEntity zid sim now a) :
    (∃ f, e = .grid sim.aoi (localGhostID a) f) ∨ ∃ entry, e = .ghost (localGhostID a) entry := by
  unfold detectEntity at h
  split at h
  · split_ifs at h
    · cases h
    · rcases List.mem_pair.mp h with rfl | rfl
      · exact .inl ⟨_, rfl⟩
      · exact .inr ⟨_, rfl⟩
  · cases h

theorem mem_visitObserver {e : Edit} (h : e ∈ P.visitObserver sim a) :
    ∃ r s, sim.entities.get a = some r ∧ e = .sight (P.objects r).id s := by
  unfold visitObserver at h
  split at h
  · cases h
  · next r hr =>
    obtain rfl := List.mem_singleton.mp h
    exact ⟨r, _, hr, rfl⟩

theorem detectEntity_congr (hsights : Q.sights a = P.sights a) (hobjects : Q.objects = P.objects)
    (hsize : (Q.grids sim.aoi).cellSize = (P.grids sim.aoi).cellSize)
    (httl : Q.ghostTTL = P.ghostTTL) :
    Q.detectEntity zid sim now a = P.detectEntity zid sim now a := by
  unfold detectEntity
  rw [hsights, hobjects, hsize, httl]

theorem visitObserver_congr (hobjects : Q.objects = P.objects)
    (hgrid : Q.grids sim.aoi = P.grids sim.aoi) (hradius : Q.aoiRadius = P.aoiRadius) :
    Q.visitObserver sim a = P.visitObserver sim a := by
  unfold visitObserver
  rw [hobjects, hgrid, hradius]

theorem read_detect {α : Type} (read : Picture → α)
    (hgrid : ∀ Q f, read (Q.apply (.grid sim.aoi (localGhostID a) f)) = read Q)
    (hghost : ∀ Q entry, read (Q.apply (.ghost (localGhostID a) entry)) = read Q) :
    read (P.applyAll (P.detectEntity zid sim now a)) = read P := by
  refine read_applyAll read (fun e he Q => ?_) P
  obtain ⟨f, rfl⟩ | ⟨entry, rfl⟩ := mem_detectEntity he
  · exact hgrid Q f
  · exact hghost Q entry

theorem read_visit {α : Type} (read : Picture → α)
    (hsight : ∀ Q r s, sim.entities.get a = some r →
      read (Q.apply (.sight (P.objects r).id s)) = read Q) :
    read (P.applyAll (P.visitObserver sim a)) = read P := by
  refine read_applyAll read (fun e he Q => ?_) P
  obtain ⟨r, s, hr, rfl⟩ := mem_visitObserver he
  exact hsight Q r s hr

theorem detectEntity_applyAll_detect (P : Picture) :
    (P.applyAll (P.detectEntity zid' sim' now' b)).detectEntity zid sim now a =
      P.detectEntity zid sim now a :=
  detectEntity_congr (read_detect (fun Q => Q.sights a) (fun _ _ => rfl) fun _ _ => rfl)
    (read_detect Picture.objects (fun _ _ => rfl) fun _ _ => rfl)
    (read_detect (fun Q => (Q.grids sim.aoi).cellSize) (fun _ _ => cellSize_apply _ _ _)
      fun _ _ => rfl)
    (read_detect Picture.ghostTTL (fun _ _ => rfl) fun _ _ => rfl)

theorem visitObserver_applyAll_visit (P : Picture) :
    (P.applyAll (P.visitObserver sim' b)).visitObserver sim a = P.visitObserver sim a :=
  visitObserver_congr (read_visit Picture.objects fun _ _ _ _ => rfl)
    (read_visit (fun Q => Q.grids sim.aoi) fun _ _ _ _ => rfl)
    (read_visit Picture.aoiRadius fun _ _ _ _ => rfl)

/-- A visit changes what its own entity saw. -/
theorem detectEntity_applyAll_visit
    (hsight : ∀ r, sim'.entities.get b = some r → (P.objects r).id ≠ a) :
    (P.applyAll (P.visitObserver sim' b)).detectEntity zid sim now a =
      P.detectEntity zid sim now a :=
  detectEntity_congr
    (read_visit (fun Q => Q.sights a) fun Q r s hr => by simp [apply, (hsight r hr).symm])
    (read_visit Picture.objects fun _ _ _ _ => rfl)
    (read_visit (fun Q => (Q.grids sim.aoi).cellSize) fun _ _ _ _ => rfl)
    (read_visit Picture.ghostTTL fun _ _ _ _ => rfl)

/-- Replicas of one zone are not seen in another. -/
theorem visitObserver_applyAll_detect (hgrid : sim.aoi ≠ sim'.aoi) :
    (P.applyAll (P.detectEntity zid' sim' now' b)).visitObserver sim a = P.visitObserver sim a :=
  visitObserver_congr (read_detect Picture.objects (fun _ _ => rfl) fun _ _ => rfl)
    (read_detect (fun Q => Q.grids sim.aoi) (fun Q f => by simp [apply, hgrid]) fun _ _ => rfl)
    (read_detect Picture.aoiRadius (fun _ _ => rfl) fun _ _ => rfl)

theorem detectEntity_apart (hab : a ≠ b) : ∀ e ∈ P.detectEntity zid sim now a,
    ∀ e' ∈ P.detectEntity zid' sim' now' b, e'.Apart e := by
  have habout : ∀ {zid sim now} (c : EntityID), ∀ e ∈ P.detectEntity zid sim now c,
      e.About (localGhostID c) := by
    intro zid sim now c e he
    obtain ⟨f, rfl⟩ | ⟨entry, rfl⟩ := mem_detectEntity he <;> rfl
  exact fun e he e' he' => (habout a e he).apart (habout b e' he')
    fun heq => hab (localGhostID_injective heq)

theorem detect_apart_visit (P : Picture) : ∀ e ∈ P.detectEntity zid sim now a,
    ∀ e' ∈ P.visitObserver sim' b, e'.Apart e := by
  intro e he e' he'
  obtain ⟨r, s, -, rfl⟩ := mem_visitObserver he'
  obtain ⟨f, rfl⟩ | ⟨entry, rfl⟩ := mem_detectEntity he <;> trivial

theorem visit_apart_detect (P : Picture) : ∀ e ∈ P.visitObserver sim a,
    ∀ e' ∈ P.detectEntity zid' sim' now' b, e'.Apart e := by
  intro e he e' he'
  obtain ⟨r, s, -, rfl⟩ := mem_visitObserver he
  obtain ⟨f, rfl⟩ | ⟨entry, rfl⟩ := mem_detectEntity he' <;> trivial

theorem visitObserver_apart (hids : ∀ r q, sim.entities.get a = some r →
    sim'.entities.get b = some q → (P.objects r).id ≠ (P.objects q).id) :
    ∀ e ∈ P.visitObserver sim a, ∀ e' ∈ P.visitObserver sim' b, e'.Apart e := by
  intro e he e' he'
  obtain ⟨r, s, hr, rfl⟩ := mem_visitObserver he
  obtain ⟨q, s', hq, rfl⟩ := mem_visitObserver he'
  exact (hids r q hr hq).symm

theorem zones_zoneEdits (P : Picture) (k : EntityID ⊕ EntityID) :
    (P.applyAll (P.zoneEdits zid sim now k)).zones = P.zones := by
  cases k with
  | inl id => exact read_detect Picture.zones (fun _ _ => rfl) fun _ _ => rfl
  | inr id => exact read_visit Picture.zones fun _ _ _ _ => rfl

theorem tidy_zoneEdits (h : P.Tidy) (k : EntityID ⊕ EntityID) :
    (P.applyAll (P.zoneEdits zid sim now k)).Tidy := by
  refine h.applyAll fun e he => ?_
  cases k with
  | inl id => obtain ⟨f, rfl⟩ | ⟨entry, rfl⟩ := mem_detectEntity he <;> trivial
  | inr id =>
    obtain ⟨r, s, -, rfl⟩ := mem_visitObserver he
    trivial

theorem keeps_zoneEdits {Z : Dict ZoneID ZoneSim} (h : P.Tidy ∧ P.zones = Z)
    (k : EntityID ⊕ EntityID) : (P.applyAll (P.zoneEdits zid sim now k)).Tidy ∧
      (P.applyAll (P.zoneEdits zid sim now k)).zones = Z :=
  ⟨tidy_zoneEdits h.1 k, (zones_zoneEdits P k).trans h.2⟩

theorem zoneTurn_of_none {inp : TickInput} (hsim : P.zones.get zid = none) :
    P.zoneTurn inp zid = P := by
  simp only [zoneTurn, hsim]

theorem zoneTurn_of_some {inp : TickInput} (hsim : P.zones.get zid = some sim) :
    P.zoneTurn inp zid = P.loop (zoneEdits zid sim (inp.ghostNow zid))
      ((sim.entities.range (inp.detectOrder zid)).map .inl ++
        (sim.entities.range (inp.visitOrder zid).observers).map .inr) := by
  simp only [zoneTurn, hsim]

theorem keeps_zoneTurn {Z : Dict ZoneID ZoneSim} (h : P.Tidy ∧ P.zones = Z) (inp : TickInput)
    (zid : ZoneID) : (P.zoneTurn inp zid).Tidy ∧ (P.zoneTurn inp zid).zones = Z := by
  rcases hsim : P.zones.get zid with _ | sim
  · rwa [zoneTurn_of_none hsim]
  · rw [zoneTurn_of_some hsim]
    exact Reordering.foldl_invariant (I := fun Q : Picture => Q.Tidy ∧ Q.zones = Z)
      (fun k _ Q hQ => keeps_zoneEdits hQ k) h

/-- Within a zone, neither loop depends on its order. -/
theorem zoneTurn_congr (h : P.Tidy) {inp inp' : TickInput} (hnow : inp.ghostNow = inp'.ghostNow)
    (zid : ZoneID) : P.zoneTurn inp zid = P.zoneTurn inp' zid := by
  rcases hsim : P.zones.get zid with _ | sim
  · rw [zoneTurn_of_none hsim, zoneTurn_of_none hsim]
  rw [zoneTurn_of_some hsim, zoneTurn_of_some hsim, hnow]
  set edits := zoneEdits zid sim (inp'.ghostNow zid)
  have hdetect : ∀ ids ids' : List EntityID, ids.Perm ids' →
      P.loop edits (ids.map .inl) = P.loop edits (ids'.map .inl) := by
    intro ids ids' hperm
    simp only [loop, List.foldl_map]
    exact loop_perm hperm (fun _ => True) (fun _ _ _ => trivial)
      (fun Q a b _ _ => detectEntity_applyAll_detect Q)
      (fun Q a b _ hab => detectEntity_apart hab) trivial
  have hvisit : ∀ Q : Picture, Q.Tidy ∧ Q.zones = P.zones → ∀ ids ids' : List EntityID,
      ids.Perm ids' → Q.loop edits (ids.map .inr) = Q.loop edits (ids'.map .inr) := by
    intro Q hQ ids ids' hperm
    simp only [loop, List.foldl_map]
    refine loop_perm hperm (fun Q => Q.Tidy ∧ Q.zones = P.zones)
      (fun Q id hQ => keeps_zoneEdits hQ (.inr id)) (fun Q a b _ _ =>
        visitObserver_applyAll_visit Q) (fun Q a b hQ hab => visitObserver_apart ?_) hQ
    intro r q hr hq
    rwa [hQ.1.member_id zid sim a r (hQ.2 ▸ hsim) hr, hQ.1.member_id zid sim b q (hQ.2 ▸ hsim) hq]
  unfold loop at hdetect hvisit ⊢
  rw [List.foldl_append, List.foldl_append,
    hdetect _ _ (Dict.perm_range rfl (inp.detectOrder zid) (inp'.detectOrder zid))]
  refine hvisit _ ?_ _ _ (Dict.perm_range rfl _ _)
  exact Reordering.foldl_invariant (I := fun Q : Picture => Q.Tidy ∧ Q.zones = P.zones)
    (fun k _ Q hQ => keeps_zoneEdits hQ k) ⟨h, rfl⟩

/-- The entity that an iteration is about. -/
def subject (k : EntityID ⊕ EntityID) : EntityID := k.elim id id

/-- Iterations of different zones are independent. -/
theorem zoneEdits_comm (h : P.Tidy) (hsim : P.zones.get zid = some sim)
    (hsim' : P.zones.get zid' = some sim') (hz : zid ≠ zid') {k l : EntityID ⊕ EntityID}
    (hk : (sim.entities.get (subject k)).isSome) (hl : (sim'.entities.get (subject l)).isSome) :
    (P.applyAll (P.zoneEdits zid sim now k)).applyAll
        ((P.applyAll (P.zoneEdits zid sim now k)).zoneEdits zid' sim' now' l) =
      (P.applyAll (P.zoneEdits zid' sim' now' l)).applyAll
        ((P.applyAll (P.zoneEdits zid' sim' now' l)).zoneEdits zid sim now k) := by
  have hgrids : sim.aoi ≠ sim'.aoi := fun heq => hz (h.grid_inj zid zid' sim sim' hsim hsim' heq)
  have hne : subject k ≠ subject l := fun heq =>
    hz (h.home zid zid' sim sim' (subject l) hsim hsim' (heq ▸ hk) hl)
  have hid := fun a r hr => h.member_id zid sim a r hsim hr
  have hid' := fun b q hq => h.member_id zid' sim' b q hsim' hq
  cases k with
  | inl a =>
    cases l with
    | inl b =>
      exact applyAll_comm (detectEntity zid sim now · a) (detectEntity zid' sim' now' · b)
        (detectEntity_applyAll_detect P) (detectEntity_applyAll_detect P) (detectEntity_apart hne)
    | inr b =>
      refine applyAll_comm (detectEntity zid sim now · a) (visitObserver sim' · b)
        (detectEntity_applyAll_visit fun q hq => ?_)
        (visitObserver_applyAll_detect hgrids.symm) (detect_apart_visit P)
      rw [hid' b q hq]
      exact hne.symm
  | inr a =>
    cases l with
    | inl b =>
      refine applyAll_comm (visitObserver sim · a) (detectEntity zid' sim' now' · b)
        (visitObserver_applyAll_detect hgrids) (detectEntity_applyAll_visit fun r hr => ?_)
        (visit_apart_detect P)
      rw [hid a r hr]
      exact hne
    | inr b =>
      refine applyAll_comm (visitObserver sim · a) (visitObserver sim' · b)
        (visitObserver_applyAll_visit P) (visitObserver_applyAll_visit P)
        (visitObserver_apart fun r q hr hq => ?_)
      rwa [hid a r hr, hid' b q hq]

theorem isSome_subject {order order' : List EntityID} {k : EntityID ⊕ EntityID}
    (hk : k ∈ (sim.entities.range order).map .inl ++ (sim.entities.range order').map .inr) :
    (sim.entities.get (subject k)).isSome := by
  rcases List.mem_append.mp hk with hk | hk <;>
    obtain ⟨id, hid, rfl⟩ := List.mem_map.mp hk
  · exact (Dict.mem_range_iff _ _ _).mp hid
  · exact (Dict.mem_range_iff _ _ _).mp hid

/-- The turns of different zones may change places. -/
theorem zoneTurn_comm (h : P.Tidy) (inp : TickInput) (hz : zid ≠ zid') :
    (P.zoneTurn inp zid).zoneTurn inp zid' = (P.zoneTurn inp zid').zoneTurn inp zid := by
  have hkeep := fun z => (keeps_zoneTurn ⟨h, rfl⟩ inp z).2
  rcases hsim : P.zones.get zid with _ | sim
  · rw [zoneTurn_of_none hsim,
      zoneTurn_of_none ((congrArg (Dict.get · zid) (hkeep zid')).trans hsim)]
  rcases hsim' : P.zones.get zid' with _ | sim'
  · rw [zoneTurn_of_none hsim',
      zoneTurn_of_none ((congrArg (Dict.get · zid') (hkeep zid)).trans hsim')]
  rw [zoneTurn_of_some ((congrArg (Dict.get · zid') (hkeep zid)).trans hsim'),
    zoneTurn_of_some ((congrArg (Dict.get · zid) (hkeep zid')).trans hsim),
    zoneTurn_of_some hsim, zoneTurn_of_some hsim']
  refine Reordering.foldl_foldl_comm (I := fun Q : Picture => Q.Tidy ∧ Q.zones = P.zones)
    (fun k _ Q hQ => keeps_zoneEdits hQ k) (fun k _ Q hQ => keeps_zoneEdits hQ k)
    (fun k hk l hl Q hQ => ?_) ⟨h, rfl⟩
  exact zoneEdits_comm hQ.1 (hQ.2 ▸ hsim) (hQ.2 ▸ hsim') hz (isSome_subject hl) (isSome_subject hk)

theorem zones_perm (h : P.Tidy) {inp inp' : TickInput} (hnow : inp.ghostNow = inp'.ghostNow)
    {zids zids' : List ZoneID} (hperm : zids.Perm zids') :
    zids.foldl (zoneTurn inp) P = zids'.foldl (zoneTurn inp') P := by
  have hturns : zids.foldl (zoneTurn inp) P = zids.foldl (zoneTurn inp') P := by
    clear hperm
    induction zids generalizing P with
    | nil => rfl
    | cons z zids ih =>
      rw [List.foldl_cons, List.foldl_cons, zoneTurn_congr h hnow]
      exact ih (keeps_zoneTurn ⟨h, rfl⟩ inp' z).1
  rw [hturns]
  exact Reordering.foldl_perm hperm (fun z _ Q hQ => (keeps_zoneTurn ⟨hQ, rfl⟩ inp' z).1)
    (fun z _ z' _ hz Q hQ => zoneTurn_comm hQ inp' hz) h

end Zones

/-! ## Sweeps -/

section Sweeps

variable {now : Time}

theorem sweepGhost_about (P : Picture) (a : EntityID) : ∀ e ∈ P.sweepGhost now a, e.About a := by
  intro e he
  unfold sweepGhost at he
  split at he
  · cases he
  · split_ifs at he
    · cases he
    · split at he
      · rcases List.mem_pair.mp he with rfl | rfl <;> rfl
      · obtain rfl := List.mem_singleton.mp he
        rfl

theorem sweepGhosts_perm {ids ids' : List EntityID} (hperm : ids.Perm ids') :
    P.loop (sweepGhost now) ids = P.loop (sweepGhost now) ids' := by
  refine loop_perm_of_about sweepGhost_about (fun P Q a h => ?_) hperm
  unfold sweepGhost
  rw [h.ghosts, h.zones]

theorem sweepSession_about (P : Picture) (a : EntityID) :
    ∀ e ∈ P.sweepSession now a, e.About a := by
  intro e he
  unfold sweepSession at he
  split_ifs at he
  · split at he
    · rcases List.mem_pair.mp he with rfl | rfl <;> rfl
    · obtain rfl := List.mem_singleton.mp he
      rfl
  · cases he

theorem sweepSessions_perm {ids ids' : List EntityID} (hperm : ids.Perm ids') :
    P.loop (sweepSession now) ids = P.loop (sweepSession now) ids' := by
  refine loop_perm_of_about sweepSession_about (fun P Q a h => ?_) hperm
  unfold sweepSession
  rw [h.expired, h.indexRefOf]

end Sweeps

end Picture

end SpatialServer.Game

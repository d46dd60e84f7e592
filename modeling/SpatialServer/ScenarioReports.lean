import SpatialServer.ScenarioRunner

/-!
# Reports and clean-up of a scenario

The parts of the runner are taken from the last to the first. Each leaves with a
panic or with an outcome, and each says what it has deferred. The deferred calls
then run over the state that is left, whatever it is, so that the clean-up depends
only on how far the run came, and the report on whether anything panicked.
-/
namespace SpatialServer.Validation

open Deferred Deferred.Body Runner

/-! ## What the parts of a scenario come to -/

/-- The observer delivers evidence, or an error that is tolerated. -/
def Observer.Works (phase : ObservationPhase) (o : Observer) : Prop :=
  match o.observe phase with
  | .ok _ => True
  | .err _ => o.policy ≠ .required
  | .panic _ => False

def Observer.evidence (phase : ObservationPhase) (o : Observer) : List Evidence :=
  match o.observe phase with
  | .ok e => e
  | .err err => [observerError phase o err]
  | .panic _ => []

theorem observeAll_eq_ok {phase : ObservationPhase} {os : List Observer} {all es : List Evidence} :
    observeAll phase os all = .ok es ↔
      (∀ o ∈ os, o.Works phase) ∧ es = all ++ os.flatMap (Observer.evidence phase) := by
  induction os generalizing all with
  | nil => simp [observeAll, eq_comm]
  | cons o os ih =>
    rw [observeAll, List.forall_mem_cons, List.flatMap_cons]
    rcases ho : o.observe phase with e | err | e
    · simp [ih, Observer.Works, Observer.evidence, ho]
    · by_cases hpolicy : o.policy = .required
      · simp [Observer.Works, ho, hpolicy]
      · simp [ih, Observer.Works, Observer.evidence, ho, hpolicy]
    · simp [Observer.Works, ho]

/-- The criterion fails the scenario. -/
def AcceptanceCriterion.Exceeded (c : AcceptanceCriterion) (actual : Duration) : Prop :=
  c.policy = .fail ∧ c.threshold ≠ 0 ∧ actual > c.threshold

instance (c : AcceptanceCriterion) (actual : Duration) : Decidable (c.Exceeded actual) :=
  inferInstanceAs (Decidable (_ ∧ _ ∧ _))

namespace ScenarioDefinition

variable (sc : ScenarioDefinition)

def evidence (phase : ObservationPhase) : List Evidence :=
  sc.observers.flatMap (Observer.evidence phase)

theorem observation_eq_ok {phase : ObservationPhase} {es : List Evidence} :
    sc.observation phase = .ok es ↔
      (∀ o ∈ sc.observers, o.Works phase) ∧ es = sc.evidence phase := by
  rw [observation, observeAll_eq_ok, List.nil_append, evidence]

/-- Every validator returns, and none with a failure. -/
def Validated (baseline postRecovery : List Evidence) : Prop :=
  ∀ v ∈ sc.validators, ∃ result, v baseline postRecovery = .ok result ∧ result.status ≠ .fail

/-- No measured value exceeds a threshold that fails the scenario. The duration of ticks
is never measured. -/
def Accepted (env : RunEnv) : Prop :=
  ¬sc.acceptance.recoveryDuration.Exceeded env.waited ∧ ¬sc.acceptance.tickP95.Exceeded 0

/-- The requirements are met, nothing errors or panics before the verdict, the system
recovers, no validator fails and no criterion is exceeded. -/
structure Passes (env : RunEnv) : Prop where
  prepared : ∃ prepared, sc.setup = .ok prepared ∧
    ∃ reason, checkRequirements prepared.infra sc.requirements = .ok (true, reason)
  observed : ∀ phase, ∀ o ∈ sc.observers, o.Works phase
  injected : sc.injector.inject = .ok ()
  recovered : sc.wait = .ok ()
  validated : sc.Validated (sc.evidence .baseline) (sc.evidence .postRecovery)
  accepted : sc.Accepted env

/-! The places where the run, if it comes there, panics before it returns. -/

def PanicsJudging (baseline postRecovery : List Evidence) : Prop :=
  (∃ v ∈ sc.validators, ∃ e, v baseline postRecovery = .error e) ∨
    ∃ e, sc.reporter = some (.panic e)

def PanicsRecovering (baseline : List Evidence) : Prop :=
  (∃ e, sc.wait = .panic e) ∨ (∃ e, sc.observation .postRecovery = .panic e) ∨
    ∃ postRecovery, sc.observation .postRecovery = .ok postRecovery ∧
      sc.PanicsJudging baseline postRecovery

def PanicsInjecting (baseline : List Evidence) : Prop :=
  (∃ e, sc.injector.inject = .panic e) ∨
    sc.injector.inject = .ok () ∧ sc.PanicsRecovering baseline

def PanicsObserving : Prop :=
  (∃ e, sc.observation .baseline = .panic e) ∨
    ∃ baseline, sc.observation .baseline = .ok baseline ∧ sc.PanicsInjecting baseline

def PanicsPrepared (prepared : Prepared) : Prop :=
  (∃ e, checkRequirements prepared.infra sc.requirements = .error e) ∨
    (∃ reason, checkRequirements prepared.infra sc.requirements = .ok (true, reason)) ∧
      sc.PanicsObserving

/-! The same stages of a run that passes. -/

def PassesRecovering (env : RunEnv) (baseline : List Evidence) : Prop :=
  sc.wait = .ok () ∧ ∃ postRecovery, sc.observation .postRecovery = .ok postRecovery ∧
    sc.Validated baseline postRecovery ∧ sc.Accepted env

def PassesInjecting (env : RunEnv) (baseline : List Evidence) : Prop :=
  sc.injector.inject = .ok () ∧ sc.PassesRecovering env baseline

def PassesPrepared (env : RunEnv) (prepared : Prepared) : Prop :=
  (∃ reason, checkRequirements prepared.infra sc.requirements = .ok (true, reason)) ∧
    ∃ baseline, sc.observation .baseline = .ok baseline ∧ sc.PassesInjecting env baseline

theorem passes_iff (env : RunEnv) :
    sc.Passes env ↔ ∃ prepared, sc.setup = .ok prepared ∧ sc.PassesPrepared env prepared := by
  constructor
  · intro h
    obtain ⟨prepared, hsetup, hreq⟩ := h.prepared
    exact ⟨prepared, hsetup, hreq, _, sc.observation_eq_ok.mpr ⟨h.observed _, rfl⟩, h.injected,
      h.recovered, _, sc.observation_eq_ok.mpr ⟨h.observed _, rfl⟩, h.validated, h.accepted⟩
  · rintro ⟨prepared, hsetup, hreq, b, hb, hinject, hwait, p, hp, hvalidated, haccepted⟩
    obtain ⟨hbworks, rfl⟩ := sc.observation_eq_ok.mp hb
    obtain ⟨hpworks, rfl⟩ := sc.observation_eq_ok.mp hp
    refine ⟨⟨prepared, hsetup, hreq⟩, fun phase => ?_, hinject, hwait, hvalidated, haccepted⟩
    cases phase with
    | baseline => exact hbworks
    | postRecovery => exact hpworks

/-- Some call of the scenario that the run reaches before it returns panics. -/
def Panics : Prop :=
  (∃ e, sc.setup = .panic e) ∨
    ∃ prepared, sc.setup = .ok prepared ∧ sc.PanicsPrepared prepared

/-- Neither the recovery of the fault nor the teardown panics. -/
def CleansUpQuietly : Prop :=
  sc.injector.recover.panicText = none ∧
    ∀ prepared, sc.setup = .ok prepared → prepared.teardown = none

end ScenarioDefinition

/-! ## The end of a part -/

/-- A part of the runner leaves these deferred calls and these events, and then a panic
or an outcome. -/
structure Finishes (f : Frame RunState String) (pending : List (Event × Option String))
    (events : List Event) (panics passes : Prop)
    (x : Ending (Option Unit) String (Option Unit) × Frame RunState String) : Prop where
  deferred : x.2.deferred = pending.map cleanup ++ f.deferred
  log : x.2.state.log = f.state.log ++ events
  panicked : panics → ∃ e, x.1 = .panicked e
  returned : ¬panics → x.1 = .returned (some ()) ∧
    ∃ o, x.2.state.report.outcome = some o ∧ (o = .passed ↔ passes)

section Parts

variable {f : Frame RunState String} {panics passes : Prop} {α : Type}

theorem Finishes.congr {panics' passes' : Prop} {pending : List (Event × Option String)}
    {events : List Event} {x : Ending (Option Unit) String (Option Unit) × Frame RunState String}
    (h : Finishes f pending events panics passes x) (hpanics : panics' ↔ panics)
    (hpasses : passes' ↔ passes) : Finishes f pending events panics' passes' x := by
  rw [propext hpanics, propext hpasses]
  exact h

theorem finishes_quit {o : Outcome} (cause : String) (hpanics : ¬panics) (hpasses : ¬passes)
    (ho : o ≠ .passed) : Finishes f [] [] panics passes (quit o cause f) where
  deferred := rfl
  log := (List.append_nil _).symm
  panicked h := absurd h hpanics
  returned _ := ⟨rfl, o, rfl, iff_of_false ho hpasses⟩

theorem finishes_panicked (e : String) (hpanics : panics) :
    Finishes f [] [] panics passes (.panicked e, f) where
  deferred := rfl
  log := (List.append_nil _).symm
  panicked _ := ⟨e, rfl⟩
  returned h := absurd hpanics h

/-- An edit of the report that comes first. -/
theorem Finishes.edited {g : RunState → RunState} (hg : (g f.state).log = f.state.log)
    {pending : List (Event × Option String)} {events : List Event}
    {x : Ending (Option Unit) String (Option Unit) × Frame RunState String}
    (h : Finishes { f with state := g f.state } pending events panics passes x) :
    Finishes f pending events panics passes x where
  deferred := h.deferred
  log := by rw [h.log, hg]
  panicked := h.panicked
  returned := h.returned

/-- A call that is deferred first runs last. -/
theorem Finishes.deferring (pending : List (Event × Option String)) (c : Event × Option String)
    {events : List Event} {x : Ending (Option Unit) String (Option Unit) × Frame RunState String}
    (h : Finishes { f with deferred := cleanup c :: f.deferred } pending events panics passes x) :
    Finishes f (pending ++ [c]) events panics passes x where
  deferred := by rw [h.deferred]; simp
  log := h.log
  panicked := h.panicked
  returned := h.returned

theorem Finishes.noting {ev : Event} {pending : List (Event × Option String)}
    {events : List Event} {x : Ending (Option Unit) String (Option Unit) × Frame RunState String}
    (h : Finishes { f with state := f.state.note ev } pending events panics passes x) :
    Finishes f pending (ev :: events) panics passes x where
  deferred := h.deferred
  log := by rw [h.log]; simp [RunState.note]
  panicked := h.panicked
  returned := h.returned

end Parts

/-! ## The verdict -/

/-- Only the findings of the validators and the cause differ. -/
structure SameVerdict (f g : Frame RunState String) : Prop where
  deferred : g.deferred = f.deferred
  log : g.state.log = f.state.log
  outcome : g.state.report.outcome = f.state.report.outcome
  recoveryDuration : g.state.report.recoveryDuration = f.state.report.recoveryDuration
  tickP95 : g.state.report.tickP95 = f.state.report.tickP95

theorem SameVerdict.trans {f g h : Frame RunState String} (hfg : SameVerdict f g)
    (hgh : SameVerdict g h) : SameVerdict f h where
  deferred := hgh.deferred.trans hfg.deferred
  log := hgh.log.trans hfg.log
  outcome := hgh.outcome.trans hfg.outcome
  recoveryDuration := hgh.recoveryDuration.trans hfg.recoveryDuration
  tickP95 := hgh.tickP95.trans hfg.tickP95

/-- The loop over the validators panics with the first that does, or says whether none
of them failed. -/
theorem validateAll_cases (b p : List Evidence) (vs : List Validator) (all : Bool)
    (f : Frame RunState String) :
    (∃ e g, validateAll b p vs all f = (.panicked e, g) ∧ SameVerdict f g ∧
      ∃ v ∈ vs, ∃ e, v b p = .error e) ∨
    ∃ passed g, validateAll b p vs all f = (.next passed, g) ∧ SameVerdict f g ∧
      (∀ v ∈ vs, ∃ result, v b p = .ok result) ∧
      (passed = true ↔ all = true ∧
        ∀ v ∈ vs, ∃ result, v b p = .ok result ∧ result.status ≠ .fail) := by
  induction vs generalizing all f with
  | nil => exact .inr ⟨all, f, rfl, ⟨rfl, rfl, rfl, rfl, rfl⟩, by simp, by simp⟩
  | cons v vs ih =>
    rcases hv : v b p with e | result
    · refine .inl ⟨e, f, ?_, ⟨rfl, rfl, rfl, rfl, rfl⟩, v, by simp, e, hv⟩
      rw [validateAll, hv]
      rfl
    · have hnext : validateAll b p (v :: vs) all f =
          validateAll b p vs (if result.status = .fail then false else all)
            { f with state := f.state.edit (noteResult result) } := by
        rw [validateAll, hv]
        rfl
      have hsame : SameVerdict f { f with state := f.state.edit (noteResult result) } :=
        ⟨rfl, rfl, rfl, rfl, rfl⟩
      rw [hnext]
      obtain ⟨e, g, heq, hsame', v', hv', e', he'⟩ | ⟨passed, g, heq, hsame', hret, hpass⟩ :=
        ih (if result.status = .fail then false else all) _
      · exact .inl ⟨e, g, heq, hsame.trans hsame', v', by simp [hv'], e', he'⟩
      · refine .inr ⟨passed, g, heq, hsame.trans hsame', ?_, ?_⟩
        · simpa [hv] using hret
        · rw [hpass, List.forall_mem_cons]
          by_cases hfail : result.status = .fail <;> simp [hv, hfail]

section Verdict

variable (env : RunEnv) (r : ValidationReport)

theorem outcome_check (name : String) (actual : Duration) (c : AcceptanceCriterion) :
    (check env name actual c r).outcome =
      if c.Exceeded actual then some .failed else r.outcome := by
  unfold check AcceptanceCriterion.Exceeded
  by_cases hzero : c.threshold = 0
  · simp [hzero]
  · by_cases hover : actual > c.threshold
    · by_cases hpolicy : c.policy = .fail <;> simp [hzero, hover, hpolicy]
    · simp [hzero, hover]

theorem tickP95_check (name : String) (actual : Duration) (c : AcceptanceCriterion) :
    (check env name actual c r).tickP95 = r.tickP95 := by
  unfold check
  split_ifs <;> rfl

theorem outcome_evaluateAcceptance (ac : AcceptanceCriteria) :
    (evaluateAcceptance env ac r).outcome =
      if ac.recoveryDuration.Exceeded r.recoveryDuration ∨ ac.tickP95.Exceeded r.tickP95 then
        some .failed else r.outcome := by
  simp only [evaluateAcceptance, outcome_check, tickP95_check]
  by_cases hrec : ac.recoveryDuration.Exceeded r.recoveryDuration <;>
    by_cases htick : ac.tickP95.Exceeded r.tickP95 <;> simp [hrec, htick]

theorem outcome_giveVerdict (allPassed : Bool) (hpassed : r.outcome ≠ some .passed) : ∃ o,
    (giveVerdict allPassed r).outcome = some o ∧
      (o = .passed ↔ r.outcome = none ∧ allPassed = true) := by
  unfold giveVerdict
  cases ho : r.outcome with
  | none => cases allPassed <;> simp
  | some o =>
    rw [ho, ne_eq, Option.some.injEq] at hpassed
    simp [ho, hpassed]

/-- The outcome of a report that is judged and measured. -/
theorem outcome_judged (sc : ScenarioDefinition) (allPassed : Bool)
    (hpassed : r.outcome ≠ some .passed) (hrec : r.recoveryDuration = env.waited)
    (htick : r.tickP95 = 0) : ∃ o,
    (evaluateAcceptance env sc.acceptance (giveVerdict allPassed r)).outcome = some o ∧
      (o = .passed ↔ r.outcome = none ∧ allPassed = true ∧ sc.Accepted env) := by
  obtain ⟨o, ho, hverdict⟩ := outcome_giveVerdict r allPassed hpassed
  have hkeep : (giveVerdict allPassed r).recoveryDuration = env.waited ∧
      (giveVerdict allPassed r).tickP95 = 0 := by
    rw [← hrec, ← htick, giveVerdict]
    split_ifs <;> exact ⟨rfl, rfl⟩
  rw [outcome_evaluateAcceptance, hkeep.1, hkeep.2, ho, ScenarioDefinition.Accepted, ← not_or]
  by_cases hover : sc.acceptance.recoveryDuration.Exceeded env.waited ∨
      sc.acceptance.tickP95.Exceeded 0
  · rw [if_pos hover]
    exact ⟨.failed, rfl, iff_of_false (by decide) fun h => h.2.2 hover⟩
  · rw [if_neg hover]
    exact ⟨o, rfl, by rw [hverdict]; simp [hover]⟩

/-- An error of the waiter is an outcome, and not a good one. -/
theorem outcome_noteRecovery (recovered : Except String Unit) (hr : r.outcome = none) :
    (noteRecovery env recovered r).outcome ≠ some .passed ∧
      ((noteRecovery env recovered r).outcome = none ↔ recovered = .ok ()) := by
  unfold noteRecovery
  cases recovered with
  | ok u => simp [hr]
  | error err => split_ifs <;> simp

theorem measured_noteRecovery (recovered : Except String Unit) :
    (noteRecovery env recovered r).recoveryDuration = r.recoveryDuration ∧
      (noteRecovery env recovered r).tickP95 = r.tickP95 := by
  unfold noteRecovery
  cases recovered with
  | ok u => exact ⟨rfl, rfl⟩
  | error err => split_ifs <;> exact ⟨rfl, rfl⟩

end Verdict

section Stages

variable {env : RunEnv} {sc : ScenarioDefinition} {f : Frame RunState String}

/-- The verdict passes if there is no outcome yet, all validators pass and the criteria
are kept. -/
theorem judge_finishes (b p : List Evidence) (hpassed : f.state.report.outcome ≠ some .passed)
    (hrec : f.state.report.recoveryDuration = env.waited)
    (htick : f.state.report.tickP95 = 0) :
    Finishes f [] [] (sc.PanicsJudging b p)
      (f.state.report.outcome = none ∧ sc.Validated b p ∧ sc.Accepted env)
      (judge env sc b p f) := by
  obtain ⟨e, g, heq, hsame, hpanics⟩ | ⟨all, g, heq, hsame, hret, hall⟩ :=
    validateAll_cases b p sc.validators true f
  · rw [judge, bind_of_panicked heq]
    exact ⟨hsame.deferred, by simp [hsame.log], fun _ => ⟨e, rfl⟩,
      fun h => absurd (.inl hpanics) h⟩
  · rw [judge, bind_of_next heq]
    obtain ⟨o, ho, hverdict⟩ := outcome_judged env g.state.report sc all
      (hsame.outcome ▸ hpassed) (hsame.recoveryDuration.trans hrec) (hsame.tickP95.trans htick)
    rw [hsame.outcome, hall, eq_self, true_and] at hverdict
    let s := (g.state.edit (giveVerdict all)).edit (evaluateAcceptance env sc.acceptance)
    have hlog : s.log = f.state.log ++ [] := by simp [s, RunState.edit, hsame.log]
    have hquiet : sc.PanicsJudging b p ↔ ∃ e, sc.reporter = some (.panic e) := by
      refine or_iff_right ?_
      rintro ⟨v, hv, e, he⟩
      obtain ⟨result, hresult⟩ := hret v hv
      cases he.symm.trans hresult
    rw [propext hquiet]
    -- the reporter returns, or its panic ends the run
    have hreturned : (∀ e, sc.reporter ≠ some (.panic e)) → Finishes f [] []
        (∃ e, sc.reporter = some (.panic e))
        (f.state.report.outcome = none ∧ sc.Validated b p ∧ sc.Accepted env)
        (.returned (some ()), ⟨s, g.deferred⟩) := fun hno =>
      ⟨hsame.deferred, hlog, fun ⟨e, he⟩ => absurd he (hno e), fun _ => ⟨rfl, o, ho, hverdict⟩⟩
    rcases hreporter : sc.reporter with _ | generated | err | e
    all_goals rw [hreporter] at hreturned
    · exact hreturned nofun
    · exact hreturned nofun
    · exact hreturned nofun
    · exact ⟨hsame.deferred, hlog, fun _ => ⟨e, rfl⟩, fun h => absurd ⟨e, rfl⟩ h⟩

/-- An error of the waiter does not end the run, but it settles the outcome. -/
theorem afterRecovery_finishes (b : List Evidence) (recovered : Except String Unit)
    (hout : f.state.report.outcome = none) (htick : f.state.report.tickP95 = 0) :
    Finishes f [] []
      ((∃ e, sc.observation .postRecovery = .panic e) ∨
        ∃ p, sc.observation .postRecovery = .ok p ∧ sc.PanicsJudging b p)
      (recovered = .ok () ∧ ∃ p, sc.observation .postRecovery = .ok p ∧
        sc.Validated b p ∧ sc.Accepted env)
      (afterRecovery env sc b recovered f) := by
  let r := noteRecovery env recovered { f.state.report with recoveryDuration := env.waited }
  obtain ⟨hpassed, hnone⟩ : r.outcome ≠ some .passed ∧ (r.outcome = none ↔ recovered = .ok ()) :=
    outcome_noteRecovery env _ recovered hout
  obtain ⟨hrec, hticks⟩ : r.recoveryDuration = env.waited ∧ r.tickP95 = f.state.report.tickP95 :=
    measured_noteRecovery env _ recovered
  refine Finishes.edited (g := fun s => { s with report := r }) rfl ?_
  simp only [afterRecovery, edit, modify_bind]
  rcases sc.observation .postRecovery with p | err | e
  · rw [attempt_ok_bind]
    refine Finishes.edited (g := .edit fun r => { r with postRecovery := p }) rfl ?_
    refine (judge_finishes b p ?_ ?_ ?_).congr (by simp) ?_
    · exact hpassed
    · exact hrec
    · exact hticks.trans htick
    · change _ ↔ r.outcome = none ∧ _
      rw [hnone]
      simp
  · rw [attempt_err_bind]
    exact finishes_quit _ (by simp) (by simp) (by decide)
  · rw [attempt_panic_bind]
    exact finishes_panicked e (by simp)

theorem awaitRecovery_finishes (b : List Evidence) (hout : f.state.report.outcome = none)
    (htick : f.state.report.tickP95 = 0) :
    Finishes f [] [] (sc.PanicsRecovering b) (sc.PassesRecovering env b)
      (awaitRecovery env sc b f) := by
  unfold ScenarioDefinition.PanicsRecovering ScenarioDefinition.PassesRecovering
  rw [awaitRecovery]
  rcases sc.wait with u | err | e
  · rw [attempt_ok_bind]
    exact (afterRecovery_finishes b (.ok u) hout htick).congr (by simp) (by simp)
  · rw [attempt_err_bind]
    exact (afterRecovery_finishes b (.error err) hout htick).congr (by simp) (by simp)
  · rw [attempt_panic_bind]
    exact finishes_panicked e (.inl ⟨e, rfl⟩)

theorem injectFault_finishes (b : List Evidence) (hout : f.state.report.outcome = none)
    (htick : f.state.report.tickP95 = 0) :
    Finishes f [(.recover, sc.injector.recover.panicText)] [.inject] (sc.PanicsInjecting b)
      (sc.PassesInjecting env b) (injectFault env sc b f) := by
  unfold ScenarioDefinition.PanicsInjecting ScenarioDefinition.PassesInjecting
  refine Finishes.deferring [] _ (Finishes.noting ?_)
  rw [injectFault, defer_bind, modify_bind]
  rcases sc.injector.inject with u | err | e
  · rw [attempt_ok_bind]
    refine (awaitRecovery_finishes b ?_ ?_).congr (by simp) (by simp)
    · exact hout
    · exact htick
  · rw [attempt_err_bind]
    exact finishes_quit _ (by simp) (by simp) (by decide)
  · rw [attempt_panic_bind]
    exact finishes_panicked e (.inl ⟨e, rfl⟩)

/-- A prepared run ends before the injection, and then it does not pass, or after it. -/
theorem runPrepared_finishes (prepared : Prepared) (hout : f.state.report.outcome = none)
    (htick : f.state.report.tickP95 = 0) :
    (Finishes f [(.teardown, prepared.teardown)] [] (sc.PanicsPrepared prepared)
        (sc.PassesPrepared env prepared) (runPrepared env sc prepared f) ∧
      ¬sc.PassesPrepared env prepared) ∨
    Finishes f [(.recover, sc.injector.recover.panicText), (.teardown, prepared.teardown)]
      [.inject] (sc.PanicsPrepared prepared) (sc.PassesPrepared env prepared)
      (runPrepared env sc prepared f) := by
  unfold ScenarioDefinition.PanicsPrepared ScenarioDefinition.PanicsObserving
    ScenarioDefinition.PassesPrepared
  rw [runPrepared, defer_bind]
  rcases checkRequirements prepared.infra sc.requirements with e | ⟨_ | _, reason⟩
  · rw [orPanic_error_bind]
    exact .inl ⟨.deferring [] _ (finishes_panicked e (.inl ⟨e, rfl⟩)), by simp⟩
  · rw [orPanic_ok_bind]
    exact .inl ⟨.deferring [] _ (finishes_quit reason (by simp) (by simp) (by decide)), by simp⟩
  · rw [orPanic_ok_bind]
    dsimp only
    rw [observeAndInject]
    rcases sc.observation .baseline with b | err | e
    · rw [attempt_ok_bind]
      refine .inr (.deferring [_] _ (.edited (g := .edit fun r => { r with baseline := b }) rfl ?_))
      refine (injectFault_finishes b ?_ ?_).congr (by simp) (by simp)
      · exact hout
      · exact htick
    · rw [attempt_err_bind]
      exact .inl ⟨.deferring [] _ (finishes_quit _ (by simp) (by simp) (by decide)), by simp⟩
    · rw [attempt_panic_bind]
      exact .inl ⟨.deferring [] _ (finishes_panicked e (by simp)), by simp⟩

end Stages

/-! ## After the body -/

/-- Every pending call runs, the last panic is the one in progress. -/
theorem unwind_cleanups (pending : List (Event × Option String)) (s : RunState)
    (p : Option String) : unwind (pending.map cleanup) s p =
      ({ s with log := s.log ++ pending.map Prod.fst },
        pending.foldl (fun p c => c.2.or p) p) := by
  induction pending generalizing s p with
  | nil => simp [unwind]
  | cons c pending ih =>
    rw [List.map_cons, unwind, ih]
    simp [cleanup, Cleanup.guarded, RunState.note]

theorem foldl_or_eq_none (pending : List (Event × Option String)) (p : Option String) :
    pending.foldl (fun p c => c.2.or p) p = none ↔ p = none ∧ ∀ c ∈ pending, c.2 = none := by
  induction pending generalizing p with
  | nil => simp
  | cons c pending ih =>
    rw [List.foldl_cons, ih, Option.or_eq_none_iff, List.forall_mem_cons]
    tauto

section Runs

variable (env : RunEnv) (sc : ScenarioDefinition)

/-- What is deferred before the setup. -/
def outermost : List (Cleanup RunState String) :=
  (if sc.timeout > 0 then [.plain (.note .cancel)] else []) ++
    [.recovering notePanic, .plain (.edit fun r => { r with duration := env.elapsed })]

def cancels : List Event := if sc.timeout > 0 then [.cancel] else []

/-- A panic that gets that far ends there and is noted. -/
theorem unwind_outermost (s : RunState) (p : Option String) : ∃ s',
    unwind (outermost env sc) s p = (s', none) ∧ s'.log = s.log ++ cancels sc ∧
      s'.report.outcome = if p = none then s.report.outcome else some .error := by
  unfold outermost cancels
  by_cases htimeout : sc.timeout > 0
  · rw [if_pos htimeout, if_pos htimeout]
    cases p <;> exact ⟨_, rfl, rfl, rfl⟩
  · rw [if_neg htimeout, if_neg htimeout, List.append_nil]
    cases p <;> exact ⟨_, rfl, rfl, rfl⟩

variable {env sc} {pending : List (Event × Option String)} {events : List Event}
  {panics passes : Prop}

/-- After the body, what is pending runs, a panic is noted, and the caller gets the report
if the body returned it. -/
theorem run_of_finishes (h : Finishes ⟨⟨{}, []⟩, outermost env sc⟩ pending events panics passes
      (runBody env sc ⟨⟨{}, []⟩, []⟩)) :
    (run env sc).2 = events ++ pending.map Prod.fst ++ cancels sc ∧
      (panics → (run env sc).1 = .ok none) ∧
      (¬panics → ∃ r o, (run env sc).1 = .ok (some r) ∧ r.outcome = some o ∧
        (o = .passed ↔ passes ∧ ∀ c ∈ pending, c.2 = none)) := by
  have hunwind : ∀ p, ∃ s', unwind (runBody env sc ⟨⟨{}, []⟩, []⟩).2.deferred
      (runBody env sc ⟨⟨{}, []⟩, []⟩).2.state p = (s', none) ∧
      s'.log = events ++ pending.map Prod.fst ++ cancels sc ∧
      s'.report.outcome = if p = none ∧ ∀ c ∈ pending, c.2 = none then
        (runBody env sc ⟨⟨{}, []⟩, []⟩).2.state.report.outcome else some .error := by
    intro p
    rw [h.deferred, unwind_append, unwind_cleanups]
    obtain ⟨s', hs', hlog, hout⟩ := unwind_outermost env sc
      { (runBody env sc ⟨⟨{}, []⟩, []⟩).2.state with
        log := (runBody env sc ⟨⟨{}, []⟩, []⟩).2.state.log ++ pending.map Prod.fst }
      (pending.foldl (fun p c => c.2.or p) p)
    refine ⟨s', hs', ?_, ?_⟩
    · rw [hlog, h.log]
      simp
    · rw [hout]
      simp only [foldl_or_eq_none]
  rw [run, call]
  rcases hbody : runBody env sc ⟨⟨{}, []⟩, []⟩ with ⟨ending, g⟩
  simp only [hbody] at h hunwind
  by_cases hpanics : panics
  · obtain ⟨e, rfl⟩ := h.panicked hpanics
    obtain ⟨s', hs', hlog, -⟩ := hunwind (some e)
    simp only [hs', call.leave]
    exact ⟨hlog, fun _ => rfl, fun hno => absurd hpanics hno⟩
  · obtain ⟨rfl, o, ho, hpasses⟩ := h.returned hpanics
    obtain ⟨s', hs', hlog, hout⟩ := hunwind none
    simp only [hs', call.leave]
    refine ⟨hlog, fun hp => absurd hp hpanics, fun _ => ?_⟩
    by_cases hquiet : ∀ c ∈ pending, c.2 = none
    · rw [if_pos ⟨rfl, hquiet⟩, ho] at hout
      exact ⟨s'.report, o, rfl, hout, hpasses.trans (and_iff_left hquiet).symm⟩
    · rw [if_neg fun hboth => hquiet hboth.2] at hout
      exact ⟨s'.report, .error, rfl, hout, iff_of_false (by decide) fun hboth => hquiet hboth.2⟩

/-- How far a run came: what it has to clean up, and the events before. -/
inductive CameTo (sc : ScenarioDefinition) (passes : Prop) :
    List (Event × Option String) → List Event → Prop
  | unprepared (hsetup : sc.setup.isOk = false) (h : ¬passes) : CameTo sc passes [] [.setup]
  | prepared {prepared : Prepared} (hsetup : sc.setup = .ok prepared) (h : ¬passes) :
      CameTo sc passes [(.teardown, prepared.teardown)] [.setup]
  | injected {prepared : Prepared} (hsetup : sc.setup = .ok prepared) :
      CameTo sc passes [(.recover, sc.injector.recover.panicText),
        (.teardown, prepared.teardown)] [.setup, .inject]

variable (env sc)

theorem runBody_finishes : ∃ pending events, CameTo sc (sc.Passes env) pending events ∧
    Finishes ⟨⟨{}, []⟩, outermost env sc⟩ pending events sc.Panics (sc.Passes env)
      (runBody env sc ⟨⟨{}, []⟩, []⟩) := by
  have hstart : runBody env sc ⟨⟨{}, []⟩, []⟩ = setUp env sc ⟨⟨{}, []⟩, outermost env sc⟩ := by
    rw [runBody, outermost]
    by_cases htimeout : sc.timeout > 0
    · simp only [htimeout, if_true]
      rfl
    · simp only [htimeout, if_false]
      rfl
  rw [hstart, setUp, modify_bind, propext (sc.passes_iff env)]
  unfold ScenarioDefinition.Panics
  rcases hsetup : sc.setup with prepared | err | e
  · rw [attempt_ok_bind]
    obtain ⟨hfin, hno⟩ | hfin := @runPrepared_finishes env sc
      ⟨RunState.note .setup ⟨{}, []⟩, outermost env sc⟩ prepared rfl rfl
    · exact ⟨_, _, .prepared hsetup (by simpa using hno),
        (Finishes.noting hfin).congr (by simp) (by simp)⟩
    · exact ⟨_, _, .injected hsetup, (Finishes.noting hfin).congr (by simp) (by simp)⟩
  · rw [attempt_err_bind]
    exact ⟨_, _, .unprepared (by rw [hsetup]; rfl) (by simp),
      Finishes.noting (finishes_quit _ (by simp) (by simp) (by decide))⟩
  · rw [attempt_panic_bind]
    exact ⟨_, _, .unprepared (by rw [hsetup]; rfl) (by simp),
      Finishes.noting (finishes_panicked e (by simp))⟩

/-- The clean-up, whatever the parts of the scenario do: the teardown runs once if the
setup succeeded, the recovery once and before it if the injection was tried. -/
structure CleansUp : Prop where
  teardown : (run env sc).2.count .teardown = if sc.setup.isOk then 1 else 0
  recover : (run env sc).2.count .recover = if .inject ∈ (run env sc).2 then 1 else 0
  order : .inject ∈ (run env sc).2 → [Event.recover, .teardown].Sublist (run env sc).2

theorem run_cleansUp : CleansUp env sc := by
  obtain ⟨pending, events, hcame, hfin⟩ := runBody_finishes env sc
  have hlog := (run_of_finishes hfin).1
  have hcancels : cancels sc = [] ∨ cancels sc = [.cancel] := by
    unfold cancels
    split_ifs <;> simp
  constructor
  all_goals rw [hlog]
  all_goals
    cases hcame with
    | unprepared hsetup => rcases hcancels with h | h <;> simp [h, hsetup]
    | prepared hsetup => rcases hcancels with h | h <;> simp [h, hsetup, Call.isOk]
    | injected hsetup => rcases hcancels with h | h <;> simp [h, hsetup, Call.isOk]

/-- The caller gets a report with an outcome, everything is cleaned up, and the outcome
is the right one. -/
structure ReportsAndCleansUp : Prop extends CleansUp env sc where
  report : ∃ r, (run env sc).1 = .ok (some r) ∧ r.outcome ≠ none
  passed : (∃ r, (run env sc).1 = .ok (some r) ∧ r.outcome = some .passed) ↔ sc.Passes env

/-- The runner reports and cleans up as it should exactly if nothing it reaches panics
before it returns and, where the scenario passes, the clean-up does not panic either. -/
theorem runner_reports_iff : ReportsAndCleansUp env sc ↔
    ¬sc.Panics ∧ (sc.Passes env → sc.CleansUpQuietly) := by
  obtain ⟨pending, events, hcame, hfin⟩ := runBody_finishes env sc
  obtain ⟨-, hpanicked, hreturned⟩ := run_of_finishes hfin
  -- a run that passes has both clean-up calls pending
  have hquiet : sc.Passes env → ((∀ c ∈ pending, c.2 = none) ↔ sc.CleansUpQuietly) := by
    intro hpasses
    cases hcame with
    | unprepared hsetup h => exact absurd hpasses h
    | prepared hsetup h => exact absurd hpasses h
    | injected hsetup => simp [ScenarioDefinition.CleansUpQuietly, hsetup]
  constructor
  · intro h
    have hno : ¬sc.Panics := by
      intro hpanics
      obtain ⟨r, hr, -⟩ := h.report
      rw [hpanicked hpanics] at hr
      cases hr
    refine ⟨hno, fun hpasses => (hquiet hpasses).mp ?_⟩
    obtain ⟨r, o, hr, ho, hiff⟩ := hreturned hno
    obtain ⟨r', hr', hpassed⟩ := h.passed.mpr hpasses
    cases hr.symm.trans hr'
    exact (hiff.mp (Option.some.inj (ho.symm.trans hpassed))).2
  · rintro ⟨hno, hclean⟩
    obtain ⟨r, o, hr, ho, hiff⟩ := hreturned hno
    refine ⟨run_cleansUp env sc, ⟨r, hr, by simp [ho]⟩, ?_, ?_⟩
    · rintro ⟨r', hr', hpassed⟩
      cases hr.symm.trans hr'
      exact (hiff.mp (Option.some.inj (ho.symm.trans hpassed))).1
    · intro hpasses
      refine ⟨r, hr, ?_⟩
      rw [ho, hiff.mpr ⟨hpasses, (hquiet hpasses).mpr (hclean hpasses)⟩]

/-- The only observer panics in the second phase. The panic is stopped and noted, the
fault is recovered and the infrastructure torn down, and the caller gets nil. -/
theorem panic_loses_report :
    let infra : Infrastructure := ⟨.ok "db", .ok "redis", .ok 1⟩
    let observer : Observer := ⟨"obs", .required, fun
      | .baseline => .ok []
      | .postRecovery => .panic "nil map"⟩
    let sc : ScenarioDefinition := {
      requirements := ⟨1, false, false, false, false⟩
      timeout := 2 * second
      setup := .ok ⟨infra, none⟩
      injector := ⟨.ok (), .ok ()⟩
      observers := [observer]
      validators := []
      wait := .ok ()
      reporter := none
      acceptance := ⟨⟨0, .unset⟩, ⟨0, .unset⟩⟩ }
    let env : RunEnv := ⟨second, 0, false, fun _ => ""⟩
    (run env sc).1.toOption = some none ∧
      (run env sc).2 = [.setup, .inject, .recover, .teardown, .cancel] ∧
      ¬ReportsAndCleansUp env sc := by
  intro infra observer sc env
  have hnil : (run env sc).1 = .ok none := rfl
  refine ⟨by rw [hnil]; rfl, rfl, fun h => ?_⟩
  obtain ⟨r, hr, -⟩ := h.report
  rw [hnil] at hr
  cases hr

end Runs

end SpatialServer.Validation

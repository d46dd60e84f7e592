import SpatialServer.Deferred
import SpatialServer.Entities

/-!
# The runner of validation scenarios

A scenario is foreign code: every part of it may succeed, return an error or
panic. The runner takes the parts in order, leaves early when one of them fails
and has deferred what must happen in any case: undoing the injected fault, tearing
the infrastructure down, noting a panic in the report. What must happen does
happen. But the result of the function has no name, so that after a panic the
caller gets no report, noted or not; and a panic while cleaning up takes back a
verdict that was already given.
-/
namespace SpatialServer.Validation

open Deferred Deferred.Body

/-- What a call of foreign code comes to. -/
inductive Call (α : Type) where
  | ok (a : α)
  | err (text : String)
  | panic (text : String)

namespace Call

variable {α : Type}

def isOk : Call α → Bool
  | .ok _ => true
  | _ => false

def panicText : Call α → Option String
  | .panic e => some e
  | _ => none

end Call

/-! ## Scenarios -/

inductive ObservationPhase where
  | baseline
  | postRecovery
  deriving DecidableEq, Repr

def ObservationPhase.text : ObservationPhase → String
  | .baseline => "baseline"
  | .postRecovery => "post_recovery"

structure Evidence where
  phase : ObservationPhase
  source : String
  kind : String
  key : String
  value : String
  deriving DecidableEq, Repr

inductive ObserverPolicy where
  | required
  | optional
  deriving DecidableEq, Repr

structure Observer where
  name : String
  policy : ObserverPolicy
  observe : ObservationPhase → Call (List Evidence)

inductive ValidationStatus where
  | pass
  | fail
  | warn
  | skip
  deriving DecidableEq, Repr

structure ValidationResult where
  validator : String
  status : ValidationStatus
  detail : String
  deriving DecidableEq, Repr

/-- A validator returns no error, but it may panic. -/
abbrev Validator := List Evidence → List Evidence → Except String ValidationResult

structure Requirements where
  minRuntimeNodes : ℤ
  composeRequired : Bool
  postgreSQL : Bool
  redis : Bool
  networkFaults : Bool
  deriving DecidableEq, Repr

structure Infrastructure where
  database : Call String
  endpoint : Call String
  /-- The number of nodes, or the text of a panic. -/
  runtimeNodes : Except String ℤ

/-- What a successful setup returns. The teardown returns nothing or panics. -/
structure Prepared where
  infra : Infrastructure
  teardown : Option String

structure Injector where
  inject : Call Unit
  recover : Call Unit

inductive AcceptancePolicy where
  | unset
  | warn
  | fail
  deriving DecidableEq, Repr

def AcceptancePolicy.text : AcceptancePolicy → String
  | .unset => ""
  | .warn => "warn"
  | .fail => "fail"

structure AcceptanceCriterion where
  threshold : Duration
  policy : AcceptancePolicy
  deriving DecidableEq, Repr

/-- The criteria that are checked. -/
structure AcceptanceCriteria where
  recoveryDuration : AcceptanceCriterion
  tickP95 : AcceptanceCriterion
  deriving DecidableEq, Repr

/-- A scenario, with what each of its calls comes to in this run. -/
structure ScenarioDefinition where
  requirements : Requirements
  timeout : Duration
  setup : Call Prepared
  injector : Injector
  observers : List Observer
  validators : List Validator
  wait : Call Unit
  /-- What the reporter, where there is one, makes of the report it reads. -/
  reporter : Option (Call Unit)
  acceptance : AcceptanceCriteria

/-- The clock and the library around a run. -/
structure RunEnv where
  elapsed : Duration
  waited : Duration
  /-- The deadline had passed when waiting for the recovery was over. -/
  deadlineExceeded : Bool
  formatDuration : Duration → String

/-! ## Reports -/

inductive Outcome where
  | passed
  | failed
  | skipped
  | timedOut
  | error
  deriving DecidableEq, Repr

/-- The report. A new one has no outcome. -/
structure ValidationReport where
  outcome : Option Outcome := none
  duration : Duration := 0
  baseline : List Evidence := []
  postRecovery : List Evidence := []
  validations : List ValidationResult := []
  recoveryDuration : Duration := 0
  tickP95 : Duration := 0
  rootCause : String := ""

/-- The calls whose number and order matter. -/
inductive Event where
  | setup
  | inject
  | recover
  | teardown
  | cancel
  deriving DecidableEq, Repr

/-- The report in memory and the calls made so far. -/
structure RunState where
  report : ValidationReport
  log : List Event

namespace RunState

def note (ev : Event) (s : RunState) : RunState := { s with log := s.log ++ [ev] }

def edit (g : ValidationReport → ValidationReport) (s : RunState) : RunState :=
  { s with report := g s.report }

end RunState

/-- A part of the runner. The result is the pointer to the report, or nil. -/
abbrev Runner (α : Type) := Body RunState String (Option Unit) α

namespace Runner

variable {α : Type}

def edit (g : ValidationReport → ValidationReport) : Runner Unit := modify (RunState.edit g)

/-- Run foreign code and go on with its error, if it returns one. -/
def attempt : Call α → Runner (Except String α)
  | .ok a => pure (.ok a)
  | .err e => pure (.error e)
  | .panic e => raise e

/-- Run foreign code that returns no error. -/
def orPanic : Except String α → Runner α
  | .ok a => pure a
  | .error e => raise e

section Apply

variable {β : Type} (f : Frame RunState String)

@[simp] theorem attempt_ok_bind (a : α) (k : Except String α → Runner β) :
    (attempt (.ok a) >>= k) f = k (.ok a) f := rfl

@[simp] theorem attempt_err_bind (e : String) (k : Except String α → Runner β) :
    (attempt (.err e) >>= k) f = k (.error e) f := rfl

@[simp] theorem attempt_panic_bind (e : String) (k : Except String α → Runner β) :
    (attempt (.panic e) >>= k) f = (.panicked e, f) := rfl

@[simp] theorem orPanic_ok_bind (a : α) (k : α → Runner β) : (orPanic (.ok a) >>= k) f = k a f :=
  rfl

@[simp] theorem orPanic_error_bind (e : String) (k : α → Runner β) :
    (orPanic (.error e) >>= k) f = (.panicked e, f) := rfl

end Apply

/-- Leave early with an outcome. -/
def quit (outcome : Outcome) (cause : String) : Runner α := do
  edit fun r => { r with outcome := some outcome, rootCause := cause }
  ret (some ())

end Runner

open Runner

/-! ## The run -/

def checkRequirements (infra : Infrastructure) (req : Requirements) :
    Except String (Bool × String) := do
  if req.postgreSQL then
    match infra.database with
    | .panic e => throw e
    | .err err => return (false, "postgres: " ++ err)
    | .ok _ => pure ()
  if req.redis then
    match infra.endpoint with
    | .panic e => throw e
    | .err err => return (false, "redis: " ++ err)
    | .ok _ => pure ()
  if req.minRuntimeNodes > 0 then
    let nodes ← infra.runtimeNodes
    if nodes < req.minRuntimeNodes then
      return (false, "need " ++ toString req.minRuntimeNodes ++ " runtime nodes, have " ++
        toString nodes)
  if req.composeRequired then
    return (false, "compose mode not available in this environment")
  if req.networkFaults then
    return (false, "network faults require compose mode")
  return (true, "")

/-- The error of an optional observer is evidence of its own. -/
def observerError (phase : ObservationPhase) (o : Observer) (err : String) : Evidence :=
  ⟨phase, o.name, "error", "observer-error", err⟩

def observeAll (phase : ObservationPhase) : List Observer → List Evidence → Call (List Evidence)
  | [], all => .ok all
  | o :: os, all =>
    match o.observe phase with
    | .panic e => .panic e
    | .err err =>
      if o.policy = .required then .err (o.name ++ "(" ++ phase.text ++ "): " ++ err)
      else observeAll phase os (all ++ [observerError phase o err])
    | .ok e => observeAll phase os (all ++ e)

def ScenarioDefinition.observation (sc : ScenarioDefinition) (phase : ObservationPhase) :
    Call (List Evidence) := observeAll phase sc.observers []

/-- A result is kept. The first failure is the cause, if there is none yet. -/
def noteResult (result : ValidationResult) (r : ValidationReport) : ValidationReport :=
  { r with
    validations := r.validations ++ [result]
    rootCause := if result.status = .fail ∧ r.rootCause = "" then
      result.validator ++ ": " ++ result.detail else r.rootCause }

def validateAll (baseline postRecovery : List Evidence) : List Validator → Bool → Runner Bool
  | [], allPassed => pure allPassed
  | v :: vs, allPassed => do
    let result ← orPanic (v baseline postRecovery)
    edit (noteResult result)
    validateAll baseline postRecovery vs (if result.status = .fail then false else allPassed)

/-- The check of one criterion. A threshold of zero is none. -/
def check (env : RunEnv) (name : String) (actual : Duration) (c : AcceptanceCriterion)
    (r : ValidationReport) : ValidationReport :=
  let detail := name ++ " actual=" ++ env.formatDuration actual ++ " threshold=" ++
    env.formatDuration c.threshold ++ " policy=" ++ c.policy.text
  let entry (status : ValidationStatus) : List ValidationResult :=
    r.validations ++ [⟨"acceptance/" ++ name, status, detail⟩]
  if c.threshold = 0 then r
  else if actual > c.threshold then
    if c.policy = .fail then { r with outcome := some .failed, validations := entry .fail }
    else { r with validations := entry .warn }
  else { r with validations := entry .pass }

def evaluateAcceptance (env : RunEnv) (ac : AcceptanceCriteria) (r : ValidationReport) :
    ValidationReport :=
  let r := check env "recovery-duration" r.recoveryDuration ac.recoveryDuration r
  check env "tick-p95" r.tickP95 ac.tickP95 r

section Run

variable (env : RunEnv) (sc : ScenarioDefinition)

/-- The verdict of the validators, unless there is an outcome already. -/
def giveVerdict (allPassed : Bool) (r : ValidationReport) : ValidationReport :=
  if r.outcome = none then { r with outcome := some (if allPassed then .passed else .failed) }
  else r

/-- From the validators to the end. -/
def judge (baseline postRecovery : List Evidence) : Runner (Option Unit) := do
  let allPassed ← validateAll baseline postRecovery sc.validators true
  edit (giveVerdict allPassed)
  edit (evaluateAcceptance env sc.acceptance)
  match sc.reporter with
  | none => ret (some ())
  | some generated => do
    let _ ← attempt generated
    ret (some ())

/-- What an error of the waiter says of the outcome. The run goes on. -/
def noteRecovery : Except String Unit → ValidationReport → ValidationReport
  | .ok _, r => r
  | .error err, r =>
    if env.deadlineExceeded then
      { r with outcome := some .timedOut, rootCause := "recovery timed out" }
    else { r with outcome := some .error, rootCause := "recovery: " ++ err }

/-- From the second observation on. -/
def afterRecovery (baseline : List Evidence) (recovered : Except String Unit) :
    Runner (Option Unit) := do
  edit fun r => { r with recoveryDuration := env.waited }
  edit (noteRecovery env recovered)
  match ← attempt (sc.observation .postRecovery) with
  | .error err => quit .error ("post-recovery observe: " ++ err)
  | .ok postRecovery => do
    edit fun r => { r with postRecovery := postRecovery }
    judge env sc baseline postRecovery

def awaitRecovery (baseline : List Evidence) : Runner (Option Unit) := do
  afterRecovery env sc baseline (← attempt sc.wait)

/-- A deferred call of foreign code, with what it panics with, if it does. -/
def cleanup (c : Event × Option String) : Cleanup RunState String :=
  .guarded fun s => (s.note c.1, c.2)

/-- From the injection on. The recovery is deferred before the injection is tried. -/
def injectFault (baseline : List Evidence) : Runner (Option Unit) := do
  defer (cleanup (.recover, sc.injector.recover.panicText))
  modify (RunState.note .inject)
  match ← attempt sc.injector.inject with
  | .error err => quit .error ("inject: " ++ err)
  | .ok _ => awaitRecovery env sc baseline

/-- From the first observation on. -/
def observeAndInject : Runner (Option Unit) := do
  match ← attempt (sc.observation .baseline) with
  | .error err => quit .error ("baseline observe: " ++ err)
  | .ok baseline => do
    edit fun r => { r with baseline := baseline }
    injectFault env sc baseline

/-- From the successful setup on. -/
def runPrepared (prepared : Prepared) : Runner (Option Unit) := do
  defer (cleanup (.teardown, prepared.teardown))
  match ← orPanic (checkRequirements prepared.infra sc.requirements) with
  | (false, reason) => quit .skipped reason
  | (true, _) => observeAndInject env sc

/-- From the setup on. -/
def setUp : Runner (Option Unit) := do
  modify (RunState.note .setup)
  match ← attempt sc.setup with
  | .error err => quit .error ("setup: " ++ err)
  | .ok prepared => runPrepared env sc prepared

/-- A panic that is stopped is noted in the report. -/
def notePanic (e : String) : RunState → RunState := .edit fun r =>
  { r with
    outcome := some .error
    rootCause := if r.rootCause = "" then "panic: " ++ e else r.rootCause }

def runBody : Runner (Option Unit) := do
  defer (.plain (.edit fun r => { r with duration := env.elapsed }))
  defer (.recovering notePanic)
  if sc.timeout > 0 then defer (.plain (.note .cancel))
  setUp env sc

/-- The report that the caller gets, with the calls that were made. -/
def run : Except String (Option ValidationReport) × List Event :=
  match call none (runBody env sc) ⟨{}, []⟩ with
  | (result, s) => (result.map fun pointer => pointer.map fun _ => s.report, s.log)

end Run

end SpatialServer.Validation

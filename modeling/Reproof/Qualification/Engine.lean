import Mathlib.Data.List.Dedup
import Mathlib.Data.List.Sort
import Reproof.Contracts.Versions
import Reproof.Library.Checked
import Reproof.Library.Table

/-! The store of `QualificationEngine`: campaigns with a fixed budget, and their attempts. -/

namespace Reproof.Qualification

open Contracts Library

structure QualificationError where
  code : String
  message : String

/-- `_require`, whose message is this one unless it is given. -/
def invalid (code : String) : QualificationError := ⟨code, "Qualification is invalid"⟩

/-- What a statement of the database that breaks one of its keys raises. -/
def integrity : QualificationError := ⟨"IntegrityError", "UNIQUE constraint failed"⟩

inductive Phase
  | original
  | candidate
  deriving DecidableEq

/-- How a run has ended. -/
inductive RunVerdict
  | unknown
  | failed
  | observed
  | cancelled
  | quarantined
  deriving DecidableEq

inductive Coverage
  | complete
  | unknown
  deriving DecidableEq

inductive Cleanup
  | complete
  | failed
  | unknown
  deriving DecidableEq

/-- What `run` tells of an action. -/
structure Receipt where
  eventId : String
  operationId : String
  status : String
  locatorEvidenceDigest : Option String

structure ObservationSummary where
  assertionId : String
  observationId : String
  coverage : Coverage
  digest : Option String

structure AttemptBudget where
  original : Nat
  candidate : Nat
  total : Nat
  deriving DecidableEq

structure FixtureRule where
  fixtureId : String
  equivalenceDigest : String
  deriving DecidableEq

structure ObservationRequirement where
  assertionId : String
  observationId : String
  coverage : String
  deriving DecidableEq

/-- A qualification document; a coverage requirement is taken as its text. -/
structure Document where
  projectDigest : String
  projectRevision : String
  recordingDigest : String
  specificationDigest : String
  originalBuildId : String
  fixtureRules : List FixtureRule
  observationRequirements : List ObservationRequirement
  runtimePolicyDigest : String
  validationRecipeIds : List String
  attemptBudget : AttemptBudget
  deriving DecidableEq

/-- `validate_attempt`. -/
def AttemptBudget.Valid (budget : AttemptBudget) : Prop :=
  (3 ≤ budget.original ∧ budget.original ≤ 20) ∧ (3 ≤ budget.candidate ∧ budget.candidate ≤ 20) ∧
    (6 ≤ budget.total ∧ budget.total ≤ 40) ∧ budget.total = budget.original + budget.candidate

/-- `tuple(sorted(rules.items()))`. -/
def Document.fixtureEquivalence (qualification : Document) : List (String × String) :=
  (qualification.fixtureRules.map fun rule => (rule.fixtureId, rule.equivalenceDigest)).mergeSort
    fun a b => decide (a.1 ≤ b.1)

/-- What `ScenarioRegistry.register` issues, as far as the engine reads it; `digest` is that of a qualification. -/
structure ApprovedSpecification (digest : Document → String) where
  specificationId : String
  revision : Nat
  qualification : Document
  preparationKnown : Bool
  budget : qualification.attemptBudget.Valid
  rules : (qualification.fixtureRules.map (·.fixtureId)).Nodup

section Approved

variable {digest : Document → String} (approved : ApprovedSpecification digest)

def ApprovedSpecification.qualificationDigest : String := digest approved.qualification

def ApprovedSpecification.attempts : Nat := approved.qualification.attemptBudget.original

end Approved

/-- `ScenarioRunResult` of a scenario runner. -/
structure ScenarioRunResult (digest : Document → String) where
  approved : ApprovedSpecification digest
  runId : String
  phase : Phase
  verdict : RunVerdict
  buildId : String
  receipts : List Receipt
  observations : List ObservationSummary
  defect : Option Bool
  expected : Option Bool
  coverage : Coverage
  valid : Bool
  cleanup : Cleanup
  attemptRecordingDigest : Option String
  startedMonotonicNs : Int

/-- `ScenarioRunResult.public`, and what the engine stores of an attempt. -/
structure Public where
  runId : String
  phase : Phase
  verdict : RunVerdict
  projectDigest : String
  injection : String
  observation : String
  recordingDigest : String
  specificationDigest : String
  qualificationDigest : String
  buildId : String
  preparationKnown : Bool
  fixtureEquivalence : List (String × String)
  receipts : List Receipt
  observations : List ObservationSummary
  defect : Option Bool
  expected : Option Bool
  coverage : Coverage
  valid : Bool
  cleanup : Cleanup
  attemptRecordingDigest : Option String
  failureCode : Option String
  attempt : Option Nat

def ScenarioRunResult.public' {digest : Document → String} (result : ScenarioRunResult digest) : Public where
  runId := result.runId
  phase := result.phase
  verdict := result.verdict
  projectDigest := result.approved.qualification.projectDigest
  injection :=
    if result.receipts ≠ [] ∧ ∀ item ∈ result.receipts, item.status = "injected" then "injected"
    else if result.verdict = .cancelled then "cancelled"
    else if result.verdict = .failed then "failed"
    else "unknown"
  observation := if result.coverage = .complete then "observed" else "unknown"
  recordingDigest := result.approved.qualification.recordingDigest
  specificationDigest := result.approved.qualification.specificationDigest
  qualificationDigest := result.approved.qualificationDigest
  buildId := result.buildId
  preparationKnown := result.approved.preparationKnown
  fixtureEquivalence := result.approved.qualification.fixtureEquivalence
  receipts := result.receipts
  observations := result.observations
  defect := result.defect
  expected := result.expected
  coverage := result.coverage
  valid := result.valid
  cleanup := result.cleanup
  attemptRecordingDigest := result.attemptRecordingDigest
  failureCode := none
  attempt := none

inductive State
  | running
  | complete
  deriving DecidableEq

/-- What a campaign has come to. -/
inductive Verdict
  | unknown
  | quarantined
  | cancelled
  | reproduced
  | failed
  deriving DecidableEq

structure Campaign where
  campaignId : String
  qualificationDigest : String
  recordingDigest : String
  specificationDigest : String
  projectDigest : String
  originalBuildId : String
  attemptBudget : Nat
  state : State
  verdict : Verdict
  createdAtMs : Int
  endedAtMs : Option Int

structure Attempt where
  campaignId : String
  attempt : Nat
  state : State
  startedMonotonicNs : Int
  runId : String
  result : Public

instance : Schema Campaign where
  Clash a b := a.campaignId = b.campaignId
  Check _ := True
  symm same := same.symm
  decClash _ _ := inferInstance
  decCheck _ := inferInstance

instance : Schema Attempt where
  Clash a b := (a.campaignId = b.campaignId ∧ a.attempt = b.attempt) ∨ a.runId = b.runId
  Check _ := True
  symm clash := clash.imp (fun same => ⟨same.1.symm, same.2.symm⟩) Eq.symm
  decClash _ _ := inferInstance
  decCheck _ := inferInstance

/-- `QualificationCampaign`; the issuer is the engine that has issued it. -/
structure QualificationCampaign where
  campaignId : String
  qualificationDigest : String
  originalAttempts : Nat
  issuer : Nat

structure Store where
  campaigns : Table Campaign
  attempts : Table Attempt

/-- The arguments of a `_persist_attempt` that a thread has yet to make. -/
structure Job where
  campaign : QualificationCampaign
  result : Public
  startedMonotonicNs : Option Int

/-- `classify_predicates` of the original phase. -/
def classifyPredicates (defect expected : Option Bool) : String :=
  match defect, expected with
  | some defect, some expected => if defect = true ∧ expected = false then "match" else "mismatch"
  | _, _ => "unknown"

/-- `_verdict`. -/
def verdictOf (attempts : List Public) (budget : Nat) : Verdict :=
  if ∃ item ∈ attempts, item.cleanup = .failed ∨ item.cleanup = .unknown then .quarantined
  else if ∃ item ∈ attempts, item.verdict = .cancelled then .cancelled
  else if attempts.length ≠ budget then .unknown
  else if ∃ item ∈ attempts, item.coverage ≠ .complete ∨ item.defect = none ∨ item.expected = none ∨
      item.preparationKnown = false then .unknown
  else if ∀ item ∈ attempts, item.valid = true ∧ classifyPredicates item.defect item.expected = "match" then .reproduced
  else .failed

namespace Store

variable {digest : Document → String} (store : Store) (engine : Nat)

/-- The row of a campaign. -/
def row? (campaignId : String) : Option Campaign := store.campaigns.find? (·.campaignId = campaignId)

/-- The attempts of a campaign in their order. -/
def attemptsOf (campaignId : String) : List Attempt := store.attempts.select (·.campaignId = campaignId)

/-- What is stored of the attempts of a campaign. -/
def results (campaignId : String) : List Public := (store.attemptsOf campaignId).map (·.result)

/-- The attempt that is running. -/
def pending? (campaignId : String) : Option Attempt :=
  store.attempts.find? fun row => row.campaignId = campaignId ∧ row.state = .running

/-- `_campaign`. -/
def campaign (campaign : QualificationCampaign) : Except QualificationError Campaign := do
  require (campaign.issuer = engine) ⟨"trusted_campaign", "Trusted qualification campaign is required"⟩
  let row ← orFail (store.row? campaign.campaignId) ⟨"trusted_campaign", "Qualification campaign is unavailable"⟩
  require (row.qualificationDigest = campaign.qualificationDigest ∧ row.attemptBudget = campaign.originalAttempts)
    ⟨"trusted_campaign", "Qualification campaign is unavailable"⟩
  return row

/-- The columns of a campaign that are those of its approval. -/
def Bound (row : Campaign) (approved : ApprovedSpecification digest) : Prop :=
  row.qualificationDigest = approved.qualificationDigest ∧
    row.recordingDigest = approved.qualification.recordingDigest ∧
    row.specificationDigest = approved.qualification.specificationDigest ∧
    row.projectDigest = approved.qualification.projectDigest ∧
    row.originalBuildId = approved.qualification.originalBuildId ∧ row.attemptBudget = approved.attempts

instance (row : Campaign) : DecidablePred (@Bound digest row) := fun _ => inferInstanceAs (Decidable (_ ∧ _))

/-- What `begin_original` inserts. -/
def opened (approved : ApprovedSpecification digest) (campaignId : String) (now : Int) : Campaign where
  campaignId := campaignId
  qualificationDigest := approved.qualificationDigest
  recordingDigest := approved.qualification.recordingDigest
  specificationDigest := approved.qualification.specificationDigest
  projectDigest := approved.qualification.projectDigest
  originalBuildId := approved.qualification.originalBuildId
  attemptBudget := approved.attempts
  state := .running
  verdict := .unknown
  createdAtMs := now
  endedAtMs := none

/-- `begin_original`. -/
def beginOriginal (approved : ApprovedSpecification digest) (campaignId : String) (now : Int) :
    Except QualificationError (Store × QualificationCampaign) := do
  require (isIdentifier campaignId) (invalid "qualification_invalid")
  let campaign : QualificationCampaign := ⟨campaignId, approved.qualificationDigest, approved.attempts, engine⟩
  match store.row? campaignId with
  | none =>
    let campaigns ← orFail (store.campaigns.insert? (opened approved campaignId now)) integrity
    return ({ store with campaigns }, campaign)
  | some existing =>
    require (Bound existing approved) ⟨"campaign_conflict", "Qualification campaign changed"⟩
    return (store, campaign)

/-- `_unknown_attempt`. -/
def unknownAttempt (row : Campaign) (approved : ApprovedSpecification digest) (runId : String) : Public where
  runId := runId
  phase := .original
  verdict := .unknown
  projectDigest := row.projectDigest
  injection := "unknown"
  observation := "unknown"
  recordingDigest := row.recordingDigest
  specificationDigest := row.specificationDigest
  qualificationDigest := row.qualificationDigest
  buildId := row.originalBuildId
  preparationKnown := approved.preparationKnown
  fixtureEquivalence := approved.qualification.fixtureEquivalence
  receipts := []
  observations := []
  defect := none
  expected := none
  coverage := .unknown
  valid := false
  cleanup := .unknown
  attemptRecordingDigest := none
  failureCode := some "executor_incomplete"
  attempt := none

/-- `begin_attempt`, at the monotonic clock's `started` and with a new run id. -/
def beginAttempt (campaign : QualificationCampaign) (approved : ApprovedSpecification digest) (runId : String)
    (started : Int) : Except QualificationError (Store × Nat) := do
  require (approved.qualificationDigest = campaign.qualificationDigest)
    ⟨"attempt_binding", "Qualification binding changed"⟩
  let row ← store.campaign engine campaign
  require (row.state = .running) ⟨"budget_exhausted", "Qualification attempt budget is closed"⟩
  require (store.pending? campaign.campaignId = none) ⟨"attempt_active", "An attempt is already active"⟩
  let count := (store.attemptsOf campaign.campaignId).length
  require (count < row.attemptBudget) (invalid "budget_exhausted")
  let number := count + 1
  let result := { unknownAttempt row approved runId with attempt := some number }
  let attempts ← orFail (store.attempts.insert? ⟨campaign.campaignId, number, .running, started, runId, result⟩) integrity
  return ({ store with attempts }, number)

/-- The bindings that `record_attempt` asks for. -/
def Matches (row : Campaign) (result : Public) : Prop :=
  result.phase = .original ∧ result.qualificationDigest = row.qualificationDigest ∧
    result.recordingDigest = row.recordingDigest ∧ result.specificationDigest = row.specificationDigest ∧
    result.projectDigest = row.projectDigest ∧ result.buildId = row.originalBuildId

instance (row : Campaign) : DecidablePred (Matches row) := fun _ => inferInstanceAs (Decidable (_ ∧ _))

/-- `record_attempt`, up to where it takes the lock. -/
def recordAttempt (campaign : QualificationCampaign) (result : ScenarioRunResult digest) :
    Except QualificationError Job := do
  let row ← store.campaign engine campaign
  require (row.state = .running) ⟨"budget_exhausted", "Qualification attempt budget is closed"⟩
  require (Matches row result.public') ⟨"attempt_binding", "Scenario attempt binding changed"⟩
  return ⟨campaign, result.public', some result.startedMonotonicNs⟩

/-- `_record_executor_failure`, up to where it calls `_persist_attempt`. -/
def recordExecutorFailure (campaign : QualificationCampaign) : Except QualificationError Job := do
  let pending ← orFail (store.pending? campaign.campaignId) (invalid "attempt_not_admitted")
  return ⟨campaign, { pending.result with failureCode := some "executor_failed" }, none⟩

/-- Whether an attempt is the last of its campaign. -/
def Terminal (row : Campaign) (attempt : Nat) (result : Public) : Prop :=
  attempt = row.attemptBudget ∨ result.verdict = .cancelled ∨ result.cleanup ≠ .complete

instance (row : Campaign) (attempt : Nat) : DecidablePred (Terminal row attempt) :=
  fun _ => inferInstanceAs (Decidable (_ ∨ _))

/-- The slot of a finished attempt. -/
def finish (result : Public) (row : Attempt) : Attempt :=
  { row with state := .complete, runId := result.runId, result := { result with attempt := some row.attempt } }

/-- A campaign with its verdict. -/
def closeWith (verdict : Verdict) (now : Int) (row : Campaign) : Campaign :=
  { row with state := .complete, verdict, endedAtMs := some now }

/-- `_persist_attempt`. -/
def persistAttempt (job : Job) (now : Int) : Except QualificationError Store := do
  let campaignId := job.campaign.campaignId
  let row ← orFail (store.row? campaignId) ⟨"budget_exhausted", "Qualification attempt budget is closed"⟩
  require (row.state = .running) ⟨"budget_exhausted", "Qualification attempt budget is closed"⟩
  let pending ← orFail (store.pending? campaignId) ⟨"attempt_not_admitted", "Attempt was not admitted"⟩
  require (∀ started, job.startedMonotonicNs = some started → pending.startedMonotonicNs ≤ started)
    ⟨"attempt_binding", "Run predates the admitted attempt"⟩
  require (∀ prior, store.attempts.find? (·.runId = job.result.runId) = some prior →
      prior.campaignId = campaignId ∧ prior.attempt = pending.attempt)
    ⟨"attempt_reused", "Run already belongs to an attempt"⟩
  let attempts ← orFail (store.attempts.update? (fun row => row.campaignId = campaignId ∧ row.attempt = pending.attempt)
    (finish job.result)) integrity
  let stored : Store := { store with attempts }
  if Terminal row pending.attempt job.result then
    let verdict := verdictOf (stored.results campaignId) row.attemptBudget
    let campaigns ← orFail (store.campaigns.update? (·.campaignId = campaignId) (closeWith verdict now)) integrity
    return { stored with campaigns }
  else
    return stored

/-- What `_recover_unfinished` makes of an attempt that was running. -/
def interrupt (row : Attempt) : Attempt :=
  { row with state := .complete, result := { row.result with failureCode := some "process_interrupted" } }

/-- `_recover_unfinished`, with the time at which it comes to each campaign. -/
def recoverUnfinished (now : String → Int) : Except QualificationError Store := do
  let attempts ← orFail (store.attempts.update? (·.state = .running) interrupt) integrity
  let campaigns ← orFail (store.campaigns.update? (fun row => (store.pending? row.campaignId).isSome)
    fun row => closeWith .quarantined (now row.campaignId) row) integrity
  return { campaigns, attempts }

/-- What `get` and `lookup` return. -/
structure Report where
  campaignId : String
  state : State
  verdict : Verdict
  attemptBudget : Nat
  attempts : List Public

def report (row : Campaign) : Report :=
  ⟨row.campaignId, row.state, row.verdict, row.attemptBudget, store.results row.campaignId⟩

def get (campaign : QualificationCampaign) : Except QualificationError Report := do
  return store.report (← store.campaign engine campaign)

def lookup (campaignId : String) : Except QualificationError Report := do
  require (isIdentifier campaignId) (invalid "qualification_invalid")
  return store.report (← orFail (store.row? campaignId) ⟨"campaign_unavailable", "Qualification campaign is unavailable"⟩)

/-- What `require_reproduced` expects of each attempt. -/
def Expected (approved : ApprovedSpecification digest) (item : Public) : Prop :=
  item.phase = .original ∧ item.qualificationDigest = approved.qualificationDigest ∧
    item.recordingDigest = approved.qualification.recordingDigest ∧
    item.specificationDigest = approved.qualification.specificationDigest ∧
    item.projectDigest = approved.qualification.projectDigest ∧
    item.buildId = approved.qualification.originalBuildId ∧
    item.fixtureEquivalence = approved.qualification.fixtureEquivalence ∧ item.cleanup = .complete

instance (approved : ApprovedSpecification digest) : DecidablePred (Expected approved) :=
  fun _ => inferInstanceAs (Decidable (_ ∧ _))

/-- `require_reproduced`. -/
def requireReproduced (approved : ApprovedSpecification digest) (campaignId : String) :
    Except QualificationError Report := do
  require (isIdentifier campaignId) (invalid "qualification_invalid")
  let unqualified : QualificationError := ⟨"baseline_unqualified", "Original reproduction is not qualified"⟩
  let row ← orFail (store.row? campaignId) unqualified
  require (Bound row approved ∧ row.state = .complete ∧ row.verdict = .reproduced) unqualified
  let result ← store.lookup campaignId
  let attempts := result.attempts
  require (attempts.length = approved.attempts ∧ (attempts.map (·.runId)).dedup.length = approved.attempts ∧
      (∀ item ∈ attempts, Expected approved item) ∧ verdictOf attempts approved.attempts = .reproduced)
    ⟨"baseline_unqualified", "Original reproduction evidence is incomplete"⟩
  return result

end Store

end Reproof.Qualification

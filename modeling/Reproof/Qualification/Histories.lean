import Reproof.Qualification.Campaigns

/-! A store of qualifications with its engines and their threads, over any history. -/

namespace Reproof.Qualification

open Contracts Library

variable {digest : Document → String}

/-- The store, the engine that has it open and what the threads of this engine have in hand. -/
structure World where
  store : Store
  engine : Option Nat
  engines : Nat
  jobs : Dict Nat Job

/-- One critical section of a thread, or the end of the process. -/
inductive Event (digest : Document → String)
  | start (now : String → Int)
  | stop
  | beginOriginal (approved : ApprovedSpecification digest) (campaignId : String) (now : Int)
  | beginAttempt (campaign : QualificationCampaign) (approved : ApprovedSpecification digest) (runId : String) (started : Int)
  | recordAttempt (thread : Nat) (campaign : QualificationCampaign) (result : ScenarioRunResult digest)
  | recordExecutorFailure (thread : Nat) (campaign : QualificationCampaign)
  | persistAttempt (thread : Nat) (now : Int)

namespace World

def empty : World := ⟨⟨.empty, .empty⟩, none, 0, .empty⟩

def issuer (w : World) : Except QualificationError Nat := orFail w.engine ⟨"AttributeError", "The engine is closed"⟩

def apply (w : World) : Event digest → Except QualificationError World
  | .start now => do
    require (w.engine = none) ⟨"qualification_busy", "Qualification store is active"⟩
    let store ← w.store.recoverUnfinished now
    return { store, engine := some w.engines, engines := w.engines + 1, jobs := .empty }
  | .stop => return { w with engine := none, jobs := .empty }
  | .beginOriginal approved campaignId now => do
    let (store, _) ← w.store.beginOriginal (← w.issuer) approved campaignId now
    return { w with store }
  | .beginAttempt campaign approved runId started => do
    let (store, _) ← w.store.beginAttempt (← w.issuer) campaign approved runId started
    return { w with store }
  | .recordAttempt thread campaign result => do
    let job ← w.store.recordAttempt (← w.issuer) campaign result
    return { w with jobs := w.jobs.set thread job }
  | .recordExecutorFailure thread campaign => do
    let _ ← w.issuer
    let job ← w.store.recordExecutorFailure campaign
    return { w with jobs := w.jobs.set thread job }
  | .persistAttempt thread now => do
    let _ ← w.issuer
    let job ← orFail (w.jobs.get? thread) (invalid "no_attempt")
    let store ← w.store.persistAttempt job now
    return { w with store, jobs := w.jobs.erase thread }

/-- What is left of a call that may have raised. -/
def step (w : World) (event : Event digest) : World := ((w.apply event).toOption).getD w

def run (w : World) (events : List (Event digest)) : World := events.foldl step w

structure Inv (digest : Document → String) (w : World) : Prop where
  store : w.store.Inv digest
  jobs : ∀ thread job, w.jobs.get? thread = some job →
    ∃ row, w.store.row? job.campaign.campaignId = some row ∧ Store.Held digest row job

variable {w w' : World}

theorem Inv.empty : Inv digest empty where
  store := by
    have nothing {row : Campaign} {P : Prop} (found : none = some row) : P := nomatch found
    exact ⟨fun _ _ => nothing, fun _ => rfl, fun _ _ => nothing, fun _ _ => nothing, fun _ mem => nomatch List.not_mem_nil mem⟩
  jobs _ _ found := nomatch (Dict.get?_empty.symm.trans found : none = some _)

end World

namespace Store

variable {store store' : Store}

theorem recordAttempt_held {engine : Nat} {campaign : QualificationCampaign} {result : ScenarioRunResult digest}
    {job : Job} (done : store.recordAttempt engine campaign result = .ok job) :
    ∃ row, store.row? job.campaign.campaignId = some row ∧ Held digest row job := by
  simp only [recordAttempt, bind_eq_ok, require_eq_ok, pure_eq_ok] at done
  obtain ⟨row, bound, _, -, _, bindings, rfl⟩ := done
  exact ⟨row, (campaign_ok bound).1, bindings, ⟨result.approved.qualification, bindings.2.1, rfl⟩,
    .inr ⟨result, rfl, rfl⟩⟩

theorem recordExecutorFailure_held {campaign : QualificationCampaign} {job : Job} (inv : Inv digest store)
    (done : store.recordExecutorFailure campaign = .ok job) :
    ∃ row, store.row? job.campaign.campaignId = some row ∧ Held digest row job := by
  simp only [recordExecutorFailure, bind_eq_ok, orFail_eq_ok, pure_eq_ok] at done
  obtain ⟨pending, active, rfl⟩ := done
  obtain ⟨member, here, running⟩ := pending?_some active
  obtain ⟨row, found, filed, -⟩ := inv.filed pending member
  exact ⟨row, here ▸ found, filed.bindings, filed.fixtures, .inl ⟨(fun h => by cases h), (filed.blank running).2⟩⟩

theorem Step.held {job : Job} (step : Step digest store store')
    (held : ∃ row, store.row? job.campaign.campaignId = some row ∧ Held digest row job) :
    ∃ row, store'.row? job.campaign.campaignId = some row ∧ Held digest row job := by
  obtain ⟨row, found, held⟩ := held
  obtain ⟨row', found', same, -⟩ := step.keeps.campaigns _ row found
  exact ⟨row', found', held.same same⟩

end Store

namespace World

variable {w w' : World}

/-- One critical section. -/
theorem apply_step {event : Event digest} (inv : Inv digest w) (done : w.apply event = .ok w') :
    Store.Keeps w.store w'.store ∧ Inv digest w' := by
  cases event with
  | start now =>
    simp only [apply, bind_eq_ok, require_eq_ok, pure_eq_ok] at done
    obtain ⟨_, -, store, recovered, rfl⟩ := done
    have step := Store.recoverUnfinished_step inv.store recovered
    exact ⟨step.keeps, step.inv, fun _ _ found => by cases (Dict.get?_empty.symm.trans found : none = some _)⟩
  | stop =>
    simp only [apply, pure_eq_ok] at done
    subst done
    exact ⟨.refl, inv.store, fun _ _ found => by cases (Dict.get?_empty.symm.trans found : none = some _)⟩
  | beginOriginal approved campaignId now =>
    simp only [apply, bind_eq_ok, pure_eq_ok] at done
    obtain ⟨engine, -, ⟨store, campaign⟩, begun, rfl⟩ := done
    have step := Store.beginOriginal_step inv.store begun
    exact ⟨step.keeps, step.inv, fun thread job there => step.held (inv.jobs thread job there)⟩
  | beginAttempt campaign approved runId started =>
    simp only [apply, bind_eq_ok, pure_eq_ok] at done
    obtain ⟨engine, -, ⟨store, number⟩, begun, rfl⟩ := done
    have step := Store.beginAttempt_step inv.store begun
    exact ⟨step.keeps, step.inv, fun thread job there => step.held (inv.jobs thread job there)⟩
  | recordAttempt thread campaign result =>
    simp only [apply, bind_eq_ok, pure_eq_ok] at done
    obtain ⟨engine, -, job, recorded, rfl⟩ := done
    refine ⟨.refl, inv.store, fun thread' job' there => ?_⟩
    obtain ⟨-, rfl⟩ | ⟨-, before⟩ := Dict.get?_set_some there
    · exact Store.recordAttempt_held recorded
    · exact inv.jobs thread' job' before
  | recordExecutorFailure thread campaign =>
    simp only [apply, bind_eq_ok, pure_eq_ok] at done
    obtain ⟨engine, -, job, recorded, rfl⟩ := done
    refine ⟨.refl, inv.store, fun thread' job' there => ?_⟩
    obtain ⟨-, rfl⟩ | ⟨-, before⟩ := Dict.get?_set_some there
    · exact Store.recordExecutorFailure_held inv.store recorded
    · exact inv.jobs thread' job' before
  | persistAttempt thread now =>
    simp only [apply, bind_eq_ok, orFail_eq_ok, pure_eq_ok] at done
    obtain ⟨engine, -, job, there, store, persisted, rfl⟩ := done
    obtain ⟨row, found, held⟩ := inv.jobs thread job there
    have step := Store.persistAttempt_step inv.store found held persisted
    refine ⟨step.keeps, step.inv, fun thread' job' there' => step.held ?_⟩
    rw [Dict.get?_erase] at there'
    split at there'
    · cases there'
    · exact inv.jobs thread' job' there'

theorem step_step {event : Event digest} (inv : Inv digest w) :
    Store.Keeps w.store (w.step event).store ∧ Inv digest (w.step event) := by
  rw [step]
  cases done : w.apply event with
  | error e => exact ⟨.refl, inv⟩
  | ok w' => exact apply_step inv done

theorem run_step {events : List (Event digest)} (inv : Inv digest w) :
    Store.Keeps w.store (w.run events).store ∧ Inv digest (w.run events) := by
  induction events generalizing w with
  | nil => exact ⟨.refl, inv⟩
  | cons event rest ih =>
    obtain ⟨keeps, inv'⟩ : Store.Keeps w.store (w.step event).store ∧ Inv digest (w.step event) := step_step inv
    obtain ⟨keeps', inv''⟩ := ih inv'
    exact ⟨keeps.trans keeps', inv''⟩

end World

/-- A run that counts towards a reproduction. -/
def Public.Reproduces (item : Public) : Prop :=
  item.phase = .original ∧ item.cleanup = .complete ∧ item.coverage = .complete ∧ item.preparationKnown = true ∧
    item.valid = true ∧ item.defect = some true ∧ item.expected = some false

theorem classifyPredicates_match {defect expected : Option Bool} :
    classifyPredicates defect expected = "match" ↔ defect = some true ∧ expected = some false := by
  cases defect with
  | none => simp [classifyPredicates]
  | some d =>
    cases expected with
    | none => simp [classifyPredicates]
    | some e => cases d <;> cases e <;> simp [classifyPredicates]

theorem verdictOf_reproduced {attempts : List Public} {budget : Nat}
    (reproduced : verdictOf attempts budget = .reproduced) :
    attempts.length = budget ∧ ∀ item ∈ attempts, item.cleanup = .complete ∧ item.coverage = .complete ∧
      item.preparationKnown = true ∧ item.valid = true ∧ item.defect = some true ∧ item.expected = some false := by
  unfold verdictOf at reproduced
  split at reproduced
  · cases reproduced
  rename_i clean
  split at reproduced
  · cases reproduced
  split at reproduced
  · cases reproduced
  rename_i count
  split at reproduced
  · cases reproduced
  rename_i covered
  split at reproduced
  · rename_i all
    refine ⟨not_not.mp count, fun item mem => ?_⟩
    have dirty : ¬ (item.cleanup = .failed ∨ item.cleanup = .unknown) := fun is => clean ⟨item, mem, is⟩
    have gap : ¬ (item.coverage ≠ .complete ∨ item.defect = none ∨ item.expected = none ∨ item.preparationKnown = false) :=
      fun is => covered ⟨item, mem, is⟩
    obtain ⟨valid, predicates⟩ := all item mem
    obtain ⟨defect, expected⟩ := classifyPredicates_match.mp predicates
    refine ⟨?_, ?_, by simpa using fun known => gap (.inr (.inr (.inr known))), valid, defect, expected⟩
    · cases at_cleanup : item.cleanup with
      | complete => rfl
      | failed => exact absurd (.inl at_cleanup) dirty
      | unknown => exact absurd (.inr at_cleanup) dirty
    · exact not_not.mp fun not => gap (.inl not)
  · cases reproduced

namespace Store

variable {store : Store} {campaignId : String} {row : Campaign}

theorem Inv.reproduced (inv : Inv digest store) (found : store.row? campaignId = some row)
    (verdict : row.verdict = .reproduced) :
    row.state = .complete ∧ verdictOf (store.results campaignId) row.attemptBudget = .reproduced := by
  have judged := inv.judged campaignId row found
  unfold Judged at judged
  cases at_state : row.state with
  | running =>
    rw [at_state] at judged
    exact nomatch judged.symm.trans verdict
  | complete =>
    rw [at_state] at judged
    refine ⟨rfl, ?_⟩
    obtain quarantined | sound := judged
    · exact nomatch quarantined.symm.trans verdict
    · exact sound.symm.trans verdict

theorem Inv.filed_of (inv : Inv digest store) (found : store.row? campaignId = some row) {attempt : Attempt}
    (mem : attempt ∈ store.attemptsOf campaignId) : Filed digest row attempt := by
  obtain ⟨member, same⟩ := mem_attemptsOf.mp mem
  obtain ⟨row', found', filed, -⟩ := inv.filed attempt member
  obtain rfl := Option.some.inj ((same ▸ found').symm.trans found)
  exact filed

/-- One attempt of a campaign runs at most. -/
theorem Inv.running_unique (inv : Inv digest store) {a b : Attempt} (ha : a ∈ store.attempts) (hb : b ∈ store.attempts)
    (same : a.campaignId = b.campaignId) (running : a.state = .running) (running' : b.state = .running) : a = b := by
  obtain ⟨_, -, -, last⟩ := inv.filed a ha
  obtain ⟨_, -, -, last'⟩ := inv.filed b hb
  exact Table.eq_of_clash ha hb (.inl ⟨same, by rw [(last running).2, (last' running').2, same]⟩)

theorem runIds_nodup : (store.attempts.rows.map (·.runId)).Nodup :=
  List.pairwise_map.mpr (store.attempts.distinct.imp fun {_ _} distinct same => distinct (.inr same))

theorem Inv.results_runIds (inv : Inv digest store) (found : store.row? campaignId = some row) :
    ((store.results campaignId).map (·.runId)).Nodup := by
  have same : (store.results campaignId).map (·.runId) = (store.attemptsOf campaignId).map (·.runId) := by
    rw [results, List.map_map]
    exact List.map_congr_left fun attempt mem => (inv.filed_of found mem).runId
  rw [same]
  exact runIds_nodup.sublist (List.filter_sublist.map _)

/-- `require_reproduced` answers for the reproduced campaigns of an approval. -/
theorem Inv.requireReproduced_iff (inv : Inv digest store) {approved : ApprovedSpecification digest}
    (noCollision : ∀ qualification, digest qualification = digest approved.qualification →
      qualification = approved.qualification) :
    (∃ report, store.requireReproduced approved campaignId = .ok report) ↔
      ∃ row, store.row? campaignId = some row ∧ row.verdict = .reproduced ∧ Bound row approved := by
  constructor
  · rintro ⟨report, done⟩
    simp only [requireReproduced, bind_eq_ok, require_eq_ok, orFail_eq_ok] at done
    obtain ⟨_, -, row, found, _, ⟨bound, -, verdict⟩, -⟩ := done
    exact ⟨row, found, verdict, bound⟩
  · rintro ⟨row, found, verdict, bound⟩
    obtain ⟨complete, judged⟩ := inv.reproduced found verdict
    obtain ⟨digests, recording, specification, project, build, budget⟩ := bound
    obtain ⟨count, each⟩ := verdictOf_reproduced judged
    have identifier := inv.identifiers campaignId row found
    have looked : store.lookup campaignId = .ok (store.report row) := by
      simp only [lookup, bind_eq_ok, require_eq_ok, orFail_eq_ok, pure_eq_ok]
      exact ⟨(), identifier, row, found, rfl⟩
    have stored : (store.report row).attempts = store.results campaignId := by
      rw [report, row?_some found]
    refine ⟨store.report row, ?_⟩
    simp only [requireReproduced, bind_eq_ok, require_eq_ok, orFail_eq_ok, pure_eq_ok]
    refine ⟨(), identifier, row, found, (), ⟨⟨digests, recording, specification, project, build, budget⟩, complete,
      verdict⟩, store.report row, looked, (), ?_, rfl⟩
    rw [stored, List.dedup_eq_self.mpr (inv.results_runIds found), List.length_map, ← budget]
    refine ⟨count, count, fun item mem => ?_, judged⟩
    obtain ⟨attempt, listed, rfl⟩ := List.mem_map.mp mem
    have filed := inv.filed_of found listed
    obtain ⟨phase, digests', recording', specification', project', build'⟩ := filed.bindings
    obtain ⟨qualification, issued, fixtures⟩ := filed.fixtures
    obtain rfl := noCollision qualification (issued.trans digests)
    exact ⟨phase, digests'.trans digests, recording'.trans recording, specification'.trans specification,
      project'.trans project, build'.trans build, fixtures, (each _ mem).1⟩

end Store

namespace World

section Trial

def baseline : Document where
  projectDigest := "project"
  projectRevision := "first"
  recordingDigest := "recording"
  specificationDigest := "specification"
  originalBuildId := "build_one"
  fixtureRules := [⟨"fixture_one", "equivalence"⟩]
  observationRequirements := []
  runtimePolicyDigest := "policy"
  validationRecipeIds := []
  attemptBudget := ⟨3, 3, 6⟩

def baselineDigest (document : Document) : String := if document = baseline then "baseline" else "other"

def baselineApproval : ApprovedSpecification baselineDigest where
  specificationId := "specification_one"
  revision := 1
  qualification := baseline
  preparationKnown := true
  budget := by simp [AttemptBudget.Valid, baseline]
  rules := List.nodup_singleton _

/-- A run that shows the defect. -/
def showing (runId : String) (started : Int) : ScenarioRunResult baselineDigest where
  approved := baselineApproval
  runId := runId
  phase := .original
  verdict := .observed
  buildId := "build_one"
  receipts := []
  observations := []
  defect := some true
  expected := some false
  coverage := .complete
  valid := true
  cleanup := .complete
  attemptRecordingDigest := none
  startedMonotonicNs := started

def trialCampaign : QualificationCampaign := ⟨"campaign_one", "baseline", 3, 0⟩

/-- An admitted attempt and its run. -/
def trialAttempt (placeholder runId : String) (admitted : Int) : List (Event baselineDigest) :=
  [.beginAttempt trialCampaign baselineApproval placeholder admitted,
    .recordAttempt 0 trialCampaign (showing runId (admitted + 1)), .persistAttempt 0 (admitted + 2)]

def thrice : List (Event baselineDigest) :=
  ([.start fun _ => 0, .beginOriginal baselineApproval "campaign_one" 1] : List (Event baselineDigest)) ++
    trialAttempt "run_a" "run_one" 10 ++ trialAttempt "run_b" "run_two" 20 ++
    trialAttempt "run_c" "run_three" 30

end Trial

end World

end Reproof.Qualification

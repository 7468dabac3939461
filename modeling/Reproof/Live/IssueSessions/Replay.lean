import Reproof.Live.IssueSessions.Cleanup

/-! The replay of an approved execution, and exactly when it leaves no recording behind. -/

namespace Reproof.Live.IssueSessions

open Library Contracts

/-- The part of an approved execution that its replay reads. -/
structure Execution where
  projectDigest : String
  fixtureEquivalence : List (String × String)
  preparationKnown : Bool
  preparation : List Receipt

/-- A checked preparation, with what the digest of its payload returns or raises. -/
structure Preparation where
  fixtureId : String
  checkRecipeIds : List String
  equivalenceDigest : String
  payloadDigest : Except Error String

/-- What `start_prepared_recording` has set up when it returns a handle. -/
structure Started where
  session : Session
  unstopped : session.Unstopped
  fresh : session.finalizerStarted = false
  journalled : session.stored = some session.record

/-- What the calls of one replay return or raise. A start that raises may leave its session behind. -/
structure ReplayEnvironment (ρ α : Type) where
  configured : Bool
  requireExecution : Except Error Execution
  registration : Option String
  checkedPreparations : Except Error (List Preparation)
  startPreparedRecording : Except (Error × Option Session) Started
  getSession : Except Error (String × Int)
  run : String → Int → Except Error ρ
  verdict : ρ → String
  finalize : ρ → CleanupStatus → String → List (String × String) → Except Error α
  stopping : Environment

/-- The digest of the payload that the last complete receipt of a recipe shows. -/
def receipts (preparation : List Receipt) (recipe : String) : Option String :=
  (preparation.reverse.find? fun item => item.complete ∧ item.recipeId = recipe).map Receipt.payloadDigest

/-- `xs` and `ys` are the same as dictionaries. -/
def Alike (xs ys : List (String × String)) : Prop :=
  ∀ key ∈ xs.map Prod.fst ++ ys.map Prod.fst, xs.reverse.lookup key = ys.reverse.lookup key

instance (xs ys : List (String × String)) : Decidable (Alike xs ys) :=
  inferInstanceAs (Decidable (∀ key ∈ xs.map Prod.fst ++ ys.map Prod.fst, _))

def Preparation.recipes (item : Preparation) : List String := item.fixtureId :: item.checkRecipeIds

def equivalence (preparations : List Preparation) : List (String × String) :=
  preparations.map fun item => (item.fixtureId, item.equivalenceDigest)

def checkPayload (original : List Receipt) (item : Preparation) : Except Error Unit := do
  let digest ← item.payloadDigest
  require (∀ key ∈ item.recipes, receipts original key = some digest)
    (.issue "fixture_binding" "Replay preparation differs from the original")

/-- The receipts of the recording that was started are not those of the original. -/
def Differs (execution : Execution) (preparations : List Preparation) (current : Record) : Prop :=
  execution.preparationKnown = true ∧
    ((∃ key ∈ preparations.flatMap Preparation.recipes, receipts execution.preparation key = none) ∨
      ∃ key ∈ preparations.flatMap Preparation.recipes,
        receipts current.preparation key ≠ receipts execution.preparation key)

instance (execution : Execution) (preparations : List Preparation) (current : Record) :
    Decidable (Differs execution preparations current) :=
  inferInstanceAs (Decidable (_ ∧ _))

/-- The cleanup that a replay reports. -/
def reportedCleanup (issue : Record) : CleanupStatus :=
  if issue.deviceCleanup = some .complete ∧ ∀ item ∈ issue.cleanup, item.status = .complete then .complete
  else if issue.state = .quarantined then .failed
  else .unknown

namespace ReplayEnvironment

variable {ρ α : Type} (python : Interpreter) (env : ReplayEnvironment ρ α)

/-- What `replay` checks before it starts anything. -/
def admitted : Except Error (Execution × List Preparation) := do
  require (env.configured = true)
    (.issue "scenario_unavailable" "Scenario runner is not configured")
  let execution ← env.requireExecution
  require (env.registration = some execution.projectDigest)
    (.issue "fixture_binding" "Replay project changed")
  let preparations ← env.checkedPreparations
  require (Alike (equivalence preparations) execution.fixtureEquivalence)
    (.issue "fixture_binding" "Fixture selection changed")
  if execution.preparationKnown then each preparations (checkPayload execution.preparation)
  pure (execution, preparations)

/-- `self.stop(handle, cancelled=…)`. -/
def stopIt (cancelled : Bool) : Call Stopped :=
  env.stopping.stop python ⟨none, none, cancelled, 10⟩

/-- The body of the `try`, with its handler. -/
def runScenario (current : String × Int) : Call ρ :=
  match env.run current.1 current.2 with
  | .ok result => pure result
  | .error _ => do
    let _ ← env.stopIt python false
    Prog.raise (.issue "scenario_failed" "Approved scenario execution failed")

/-- What `replay` does with a recording whose preparation is that of the original. -/
def perform (preparations : List Preparation) : Call α := do
  let current ← Prog.ofExcept env.getSession
  let result ← env.runScenario python current
  let stopped ← env.stopIt python (env.verdict result = "cancelled")
  let digest ← Prog.ofExcept (orFail (stopped.recording.bind Recording.recordingDigest)
    (.issue "recording_incomplete" "Replay evidence was not frozen"))
  Prog.ofExcept (env.finalize result (reportedCleanup stopped.issue) digest (equivalence preparations))

/-- What `replay` does once it has the handle. -/
def conduct (execution : Execution) (preparations : List Preparation) : Call α := do
  let s ← Prog.read
  let current ← Prog.ofExcept (orFail s.stored (.issue "not_found" "Issue session was not found"))
  if Differs execution preparations current then do
    let _ ← env.stopIt python false
    Prog.raise (.issue "fixture_binding" "Replay preparation differs from the original")
  else env.perform python preparations

/-- How the replay ends, and the session that it has started. -/
def replay : Outcome Error α × Option Session :=
  match env.admitted with
  | .error e => (.raised e, none)
  | .ok (execution, preparations) =>
    match env.startPreparedRecording with
    | .error (e, left) => (.raised e, left)
    | .ok started =>
      let ended := (env.conduct python execution preparations).run [] started.session
      (ended.1, some ended.2.2)

/-- The lookup of the session is returned where it is made, the barrier of the stop is set, and a
start that raises has stopped its own recording. -/
def Shelters : Prop :=
  ∀ execution preparations, env.admitted = .ok (execution, preparations) →
    match env.startPreparedRecording with
    | .error (_, left) => ∀ s ∈ left, ¬ s.Unstopped
    | .ok started => env.stopping.Barred none none ∧
        (Differs execution preparations started.session.record ∨
          ∃ current, env.getSession = .ok current)

variable {python env} {s : Session}

theorem stopIt_unstopped {cancelled : Bool} (recording : s.Unstopped) :
    (env.stopIt python cancelled).wp (fun _ t => ¬ t.Unstopped ↔ env.stopping.Barred none none)
      (fun _ t => ¬ t.Unstopped ↔ env.stopping.Barred none none) (fun _ => False) s :=
  @Environment.stop_unstopped python env.stopping ⟨none, none, cancelled, 10⟩ s recording
    ⟨(by decide : (0 : Rat) < 10), (by decide : (10 : Rat) ≤ 60)⟩

theorem perform_unstopped {preparations : List Preparation} (recording : s.Unstopped) :
    (env.perform python preparations).wp
      (fun _ t => ¬ t.Unstopped ↔ env.stopping.Barred none none ∧ ∃ current, env.getSession = .ok current)
      (fun _ t => ¬ t.Unstopped ↔ env.stopping.Barred none none ∧ ∃ current, env.getSession = .ok current)
      (fun _ => False) s := by
  rw [perform, Prog.wp_bind, Prog.wp_ofExcept]
  cases found : env.getSession with
  | error e => simp [recording]
  | ok current =>
    simp only [Except.ok.injEq, forall_eq', reduceCtorEq, false_imp_iff, implies_true, and_true,
      exists_eq', runScenario]
    cases env.run current.1 current.2 with
    | error e =>
      simp only [Prog.wp_bind, Prog.wp_raise]
      exact stopIt_unstopped recording
    | ok result =>
      simp only [Prog.wp_bind, Prog.wp_pure]
      refine Prog.wp_mono (stopIt_unstopped recording) ?_ (fun _ _ => id) fun _ => id
      intro stopped t after
      rw [Prog.wp_ofExcept]
      exact ⟨fun digest _ => Prog.wp_ofExcept.mpr ⟨fun _ _ => after, fun _ _ => after⟩, fun _ _ => after⟩

theorem conduct_unstopped {execution : Execution} {preparations : List Preparation}
    (recording : s.Unstopped) (journalled : s.stored = some s.record) :
    (env.conduct python execution preparations).wp
      (fun _ t => ¬ t.Unstopped ↔ env.stopping.Barred none none ∧
        (Differs execution preparations s.record ∨ ∃ current, env.getSession = .ok current))
      (fun _ t => ¬ t.Unstopped ↔ env.stopping.Barred none none ∧
        (Differs execution preparations s.record ∨ ∃ current, env.getSession = .ok current))
      (fun _ => False) s := by
  simp only [conduct, Prog.wp_bind, Prog.wp_read, journalled, orFail, Prog.wp_ofExcept,
    Except.ok.injEq, forall_eq', reduceCtorEq, false_imp_iff, implies_true, and_true]
  by_cases differs : Differs execution preparations s.record
  · simp only [differs, if_true, true_or, and_true, Prog.wp_bind, Prog.wp_raise]
    exact stopIt_unstopped recording
  · simp only [differs, if_false, false_or]
    exact perform_unstopped recording

/-- A replay leaves no session that records behind iff its calls shelter it. -/
theorem replay_unstopped : (∀ s ∈ (env.replay python).2, ¬ s.Unstopped) ↔ env.Shelters := by
  unfold replay Shelters
  cases admitted : env.admitted with
  | error e => simp
  | ok admission =>
    obtain ⟨execution, preparations⟩ := admission
    cases start : env.startPreparedRecording with
    | error failed => simp
    | ok started =>
      have ended := @conduct_unstopped ρ α python env started.session execution preparations
        started.unstopped started.journalled
      simpa using Prog.run_after
        (Prog.wp_mono ended (fun _ _ => id) (fun _ _ => id) fun _ => False.elim) []

end ReplayEnvironment

/-- A stop that sets the flag of its finalizer cleans up and lets go of the issue exactly where both
journal writes after the flag are made, and a replay leaves no recording on exactly where its calls
shelter it. -/
theorem cleanup_reached (python : Interpreter) :
    (∀ (env : Environment) (request : Request) (s : Session),
      Handled s ((env.stop python request).run [] s).2.2 ↔ (env.Enters request s → env.Journals)) ∧
    ∀ {ρ α : Type} (env : ReplayEnvironment ρ α),
      (∀ s ∈ (env.replay python).2, ¬ s.Unstopped) ↔ env.Shelters :=
  ⟨fun _ _ _ => Prog.run_after Environment.stop_handled [], fun _ => ReplayEnvironment.replay_unstopped⟩

def recorded : Record where
  issueId := "issue"
  state := .recording
  preparation := []
  recordingDigest := none
  cleanup := []
  deviceCleanup := none
  originalImmutable := none
  reason := none
  updatedAtMs := 1000

def started : Started where
  session := {
    active := true
    record := recorded
    stored := some recorded
    allocations := [⟨"fixture", "allocation", 1⟩]
    android := none
    stopContext := none
    finalizerStarted := false
    attempts := [] }
  unstopped := ⟨rfl, rfl⟩
  fresh := rfl
  journalled := rfl

/-- Nothing raises, except for the writes named. -/
def failing (writes : List Write) : Environment where
  now := fun _ => 2000
  peek := .ok ("controller", 1)
  beginReleaseStop := fun _ _ => none
  journal := fun write => if write ∈ writes then ⟨some .other, false⟩ else ⟨none, true⟩
  finalizeReleaseRecording := .ok ⟨none, none, "frozen-complete"⟩
  recordingAfterFailure := .error .other
  recordingAfterCleanup := .error .other
  closeSession := some (.ok "closed")
  abandonCleanup := .error .other
  peekState := .error .other
  retainForCleanup := fun _ => none
  cleanUp := fun _ => .ok .complete
  fixtureState := fun _ => .ok "available"
  appendLifecycle := fun _ => none

/-- The lookup of the session raises once the recording has started. -/
def lost : ReplayEnvironment String Unit where
  configured := true
  requireExecution := .ok ⟨"project", [], false, []⟩
  registration := some "project"
  checkedPreparations := .ok []
  startPreparedRecording := .ok started
  getSession := .error (.live "device_unavailable")
  run := fun _ _ => .ok "passed"
  verdict := id
  finalize := fun _ _ _ _ => .ok ()
  stopping := failing []

/-- An interpreter whose tables and digests say nothing. -/
def mute : Interpreter where
  lower := id
  casefold := id
  nfc := id
  float := String.ofList
  depth := 8
  sha256 _ := ""
  hmac _ _ := ""

/-- A journal that refuses the write of `cleaning` leaves the device open and the fixture reserved, and
a lookup that raises leaves the replay recording. -/
theorem cleanup_missed :
    (¬ Handled started.session
      (((failing [.cleaning]).stop mute ⟨none, none, false, 10⟩).run [] started.session).2.2) ∧
    ∃ s ∈ (lost.replay mute).2, s.Unstopped := by
  constructor
  · intro handled
    obtain ⟨⟨attempts, tried, closed, -⟩, -⟩ := handled rfl rfl
    have untried : attempts = [] := tried.symm
    exact absurd (untried ▸ closed) List.not_mem_nil
  · exact ⟨started.session, rfl, rfl, rfl⟩

end Reproof.Live.IssueSessions

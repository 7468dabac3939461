import Reproof.Contracts.Documents
import Reproof.Library.Prog

/-! The stop of an issue session, over what each call it makes returns or raises. -/

namespace Reproof.Live.IssueSessions

open Library Contracts

inductive IssueState
  | preparing | recording | finalizing | cleaning | complete | cancelled | quarantined | failed
  deriving DecidableEq

def IssueState.terminal : List IssueState := [.complete, .cancelled, .quarantined, .failed]

inductive CleanupStatus
  | complete | failed | unknown
  deriving DecidableEq

structure FixtureCleanup where
  fixtureId : String
  allocationId : String
  generation : Int
  operationId : String
  status : CleanupStatus

/-- A receipt of the preparation. -/
structure Receipt where
  recipeId : String
  payloadDigest : String
  complete : Bool

/-- The record of an issue, as far as its stop reads or writes it. -/
structure Record where
  issueId : String
  state : IssueState
  preparation : List Receipt
  recordingDigest : Option String
  cleanup : List FixtureCleanup
  deviceCleanup : Option CleanupStatus
  originalImmutable : Option Bool
  reason : Option String
  updatedAtMs : Int

/-- A reserved fixture, with the plan that it is for. -/
structure Allocation where
  fixtureId : String
  allocationId : String
  generation : Int

/-- The part of an Android preparation that its cleanup is examined by. -/
structure AndroidPreparation where
  fixtureId : String
  allocationId : Option String
  cleaned : Bool
  cleanupResult : Option (String × CleanupStatus)

/-- What was tried to clean up. -/
inductive Attempt
  | closeDevice
  | retain (allocationId : String)
  | cleanUp (allocationId : String)
  | examine (allocationId : String)

/-- An issue session: its entry in the active map, its record and what its journal holds. -/
structure Session where
  active : Bool
  record : Record
  stored : Option Record
  allocations : List Allocation
  android : Option AndroidPreparation
  stopContext : Option (String × Int)
  finalizerStarted : Bool
  attempts : List Attempt

inductive Error
  | issue (code message : String)
  | live (code : String)
  | other

/-- A release recording; its original stands under its canonical text. -/
structure Recording where
  recordingDigest : Option String
  original : Option String
  status : String

/-- The writes of the journal, by the state that they store. -/
inductive Write
  | finalizing | cleaning | terminal
  deriving DecidableEq

/-- How a write ends; it may have been made even when it raises. -/
structure Reply where
  failure : Option Error
  applied : Bool

/-- What the calls of one stop return or raise. -/
structure Environment where
  now : Write → Int
  peek : Except Error (String × Int)
  beginReleaseStop : String → Int → Option Error
  journal : Write → Reply
  finalizeReleaseRecording : Except Error Recording
  recordingAfterFailure : Except Error Recording
  recordingAfterCleanup : Except Error Recording
  /-- Nothing when the session is not closed in time. -/
  closeSession : Option (Except Error String)
  abandonCleanup : Except Error Bool
  peekState : Except Error String
  retainForCleanup : String → Option Error
  cleanUp : String → Except Error CleanupStatus
  fixtureState : String → Except Error String
  appendLifecycle : String → Option Error

/-- The arguments of `stop`. -/
structure Request where
  controller : Option String
  epoch : Option Int
  cancelled : Bool
  cleanupTimeoutSeconds : Rat

/-- A program over one issue session. -/
abbrev Call := Prog Error Unit Session

/-- A call that returns nothing. -/
def call : Option Error → Except Error Unit
  | none => .ok ()
  | some e => .error e

/-- `_operation(*parts)`. -/
def operation (python : Interpreter) (parts : List String) : String :=
  "operation_" ++ String.ofList ((python.sha256 (utf8 ("\x00".intercalate parts))).toList.take 40)

/-- `update(state=…, updatedAtMs=…)`. -/
def Session.become (s : Session) (state : IssueState) (now : Int) : Session :=
  { s with record := { s.record with state, updatedAtMs := now } }

/-- What a stop returns. -/
structure Stopped where
  issue : Record
  recording : Option Recording

namespace Environment

variable (python : Interpreter) (env : Environment) (request : Request)

/-- `_persist(record)`. -/
def persist (write : Write) : Call Unit :=
  let reply := env.journal write
  Prog.write (fun s => { s with stored := some s.record }) (reply.failure.getD .other)
    (if reply.failure.isSome then .failed reply.applied else .done)

/-- `_handle(handle)`. -/
def handle : Call Session := do
  let s ← Prog.read
  Prog.ensure (s.active = true) (.issue "trusted_issue" "Issue session is unavailable")
  pure s

/-- `controller or current["controllerId"]`. -/
def chosenController (controller : Option String) (current : String) : String :=
  match controller with
  | some controller => if controller = "" then current else controller
  | none => current

def beginStop (controller : Option String) (epoch : Option Int) : Call Record := do
  let s ← handle
  Prog.ensure (s.record.state = .recording) (.issue "issue_inactive" "Issue session is not recording")
  let current ← Prog.ofExcept env.peek
  let context := (chosenController controller current.1, epoch.getD current.2)
  Prog.ofExcept (call (env.beginReleaseStop context.1 context.2))
  Prog.modify fun s => { s.become .finalizing (env.now .finalizing) with stopContext := some context }
  env.persist .finalizing
  let s ← Prog.read
  pure s.record

/-- The barrier of `stop`, where it is not there yet. -/
def barrier (s : Session) : Call Unit :=
  if s.record.state = .recording then do
    let _ ← env.beginStop request.controller request.epoch
    pure ()
  else pure ()

/-- `controller in (None, stopped_controller) and epoch in (None, stopped_epoch)`. -/
def Request.Agrees (request : Request) (context : String × Int) : Prop :=
  (∀ controller ∈ request.controller, controller = context.1) ∧ ∀ epoch ∈ request.epoch, epoch = context.2

instance (request : Request) (context : String × Int) : Decidable (Request.Agrees request context) :=
  inferInstanceAs (Decidable (_ ∧ _))

/-- What `stop` does under its lock, up to the flag of the finalizer. -/
def enter : Call (String × Int) := do
  Prog.ensure (0 < request.cleanupTimeoutSeconds ∧ request.cleanupTimeoutSeconds ≤ 60)
    (.issue "issue_invalid" "Issue session is invalid")
  let s ← handle
  env.barrier request s
  let s ← Prog.read
  Prog.ensure (s.record.state = .finalizing ∧ s.finalizerStarted = false)
    (.issue "issue_inactive" "Issue finalization is already running")
  let context ← Prog.ofExcept (orFail s.stopContext .other)
  Prog.ensure (Request.Agrees request context) (.issue "issue_inactive" "Stop controller changed")
  Prog.modify fun s => { s with finalizerStarted := true }
  pure context

/-- The frozen recording, where there is one, and whether the finalization raised. -/
def freeze : Option Recording × Bool :=
  match env.finalizeReleaseRecording with
  | .ok frozen => (some frozen, false)
  | .error _ => (env.recordingAfterFailure.toOption, true)

/-- Whether the device is closed. -/
def deviceClosed : Bool :=
  match env.closeSession with
  | some (.ok state) => state = "closed"
  | some (.error _) => false
  | none => env.abandonCleanup.toOption = some false ∧ env.peekState.toOption = some "closed"

/-- `_close_device`. -/
def closeDevice : Call Bool := do
  Prog.modify fun s => { s with attempts := s.attempts ++ [.closeDevice] }
  pure env.deviceClosed

/-- What is tried for a fixture. -/
def attemptFor (s : Session) (producerStopped : Bool) (allocation : Allocation) : Attempt :=
  if producerStopped = false then .retain allocation.allocationId
  else if s.android.isSome then .examine allocation.allocationId
  else .cleanUp allocation.allocationId

def cleanupOperation (s : Session) (allocation : Allocation) : String :=
  operation python [s.record.issueId, allocation.fixtureId, "cleanup", toString allocation.generation]

/-- The result of a cleanup, of an Android preparation or of the fixture itself. -/
def cleanupResult (s : Session) (allocation : Allocation) : Except Error CleanupStatus :=
  match s.android with
  | some android => do
    require (android.fixtureId = allocation.fixtureId ∧
      android.allocationId = some allocation.allocationId ∧ android.cleaned = true)
      (.issue "fixture_binding" "Issue session is invalid")
    match android.cleanupResult with
    | some (operationId, status) => do
      require (operationId = cleanupOperation python s allocation)
        (.issue "fixture_binding" "Issue session is invalid")
      pure status
    | none => .error (.issue "fixture_binding" "Issue session is invalid")
  | none => env.cleanUp allocation.allocationId

/-- The body of the `try` of one fixture. -/
def cleanupStatus (s : Session) (producerStopped : Bool) (allocation : Allocation) :
    Except Error CleanupStatus :=
  if producerStopped = false then do
    call (env.retainForCleanup allocation.allocationId)
    pure .unknown
  else do
    let result ← env.cleanupResult python s allocation
    match result with
    | .complete => do
      let state ← env.fixtureState allocation.allocationId
      pure (if state = "available" then .complete else .unknown)
    | .failed => pure .failed
    | .unknown => pure .unknown

/-- `_cleanup_fixtures`. -/
def cleanupFixtures (producerStopped : Bool) : Call (List FixtureCleanup) := do
  let s ← Prog.read
  Prog.modify fun s => { s with
    attempts := s.attempts ++ s.allocations.reverse.map (attemptFor s producerStopped) }
  pure (s.allocations.reverse.map fun allocation => {
    fixtureId := allocation.fixtureId
    allocationId := allocation.allocationId
    generation := allocation.generation
    operationId := cleanupOperation python s allocation
    status := (env.cleanupStatus python s producerStopped allocation).toOption.getD .unknown })

/-- Whether the lifecycle receipts of the fixtures and of the device are appended. -/
def appended (issueId : String) (cleanup : List FixtureCleanup) : Bool × Bool :=
  (cleanup.all fun item => (env.appendLifecycle item.operationId).isNone,
    (env.appendLifecycle (operation python [issueId, "device", "cleanup"])).isNone)

/-- Whether the original is what it was, and the recording as it is then, unless that raises. -/
def recheck (digest : String) (before : Option String) : Bool × Option Recording :=
  match env.recordingAfterCleanup with
  | .error _ => (false, none)
  | .ok after =>
    if after.recordingDigest = some digest ∧ after.original = before then
      match after.original with
      | some original => (python.sha256 (utf8 original) = digest, some after)
      | none => (false, none)
    else (false, some after)

/-- What the stop comes to once all is cleaned up. -/
def conclude (record : Record) (deviceClosed : Bool) (cleanup : List FixtureCleanup) :
    Record × Option Recording :=
  let frozen := env.freeze.1
  let digest := frozen.bind Recording.recordingDigest
  let receipts := if digest.isSome then env.appended python record.issueId cleanup else (true, true)
  let fixtureOk := cleanup.all (·.status = .complete) && receipts.1
  let deviceOk := deviceClosed && receipts.2
  let rechecked := match digest with
    | some digest => env.recheck python digest (frozen.bind Recording.original)
    | none => (false, none)
  let frozen := rechecked.2.or frozen
  let successful := env.freeze.2 = false ∧ fixtureOk ∧ deviceOk ∧ rechecked.1 ∧
    frozen.map Recording.status = some "frozen-complete" ∧ request.cancelled = false
  let unsafely := ¬ fixtureOk ∨ ¬ deviceOk
  ({ record with
    state :=
      if successful then .complete
      else if request.cancelled ∧ fixtureOk ∧ deviceOk then .cancelled
      else if unsafely then .quarantined
      else .failed
    cleanup
    deviceCleanup := some (if deviceOk then .complete else .unknown)
    originalImmutable := some rechecked.1
    reason :=
      if successful then none
      else if request.cancelled then some "cancelled"
      else if unsafely then some "cleanup_incomplete"
      else some "recording_incomplete"
    updatedAtMs := env.now .terminal }, frozen)

/-- What follows the flag of the finalizer. -/
def finalization : Call Stopped := do
  Prog.modify fun s => { s with record := { s.record with
    state := .cleaning
    recordingDigest := env.freeze.1.bind Recording.recordingDigest
    updatedAtMs := env.now .cleaning } }
  env.persist .cleaning
  let deviceClosed ← env.closeDevice
  let cleanup ← env.cleanupFixtures python deviceClosed
  let s ← Prog.read
  let concluded := env.conclude python request s.record deviceClosed cleanup
  Prog.modify fun s => { s with record := concluded.1 }
  env.persist .terminal
  Prog.modify fun s => { s with active := false }
  pure ⟨concluded.1, concluded.2⟩

def stop : Call Stopped := do
  let _ ← env.enter request
  env.finalization python request

end Environment

end Reproof.Live.IssueSessions

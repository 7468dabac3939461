import Reproof.Library.Dict

/-! The worker of one replay job, `JobQueue._run` of `jobs.py`: what it does between two calls. -/

namespace Reproof.Live.Jobs

open Library

inductive JobState
  | queued | starting | running | cleaning | succeeded | failed | cancelled | interrupted
  deriving DecidableEq

/-- `_TERMINAL`. -/
def JobState.Terminal : JobState → Prop
  | .succeeded | .failed | .cancelled | .interrupted => True
  | .queued | .starting | .running | .cleaning => False

/-- A worker has the job. -/
def JobState.Active : JobState → Prop
  | .starting | .running | .cleaning => True
  | .queued | .succeeded | .failed | .cancelled | .interrupted => False

instance : DecidablePred JobState.Terminal := fun state => by
  cases state <;> unfold JobState.Terminal <;> infer_instance

instance : DecidablePred JobState.Active := fun state => by
  cases state <;> unfold JobState.Active <;> infer_instance

/-- `_SAFE_CODES`. -/
def safeCodes : List String :=
  ["invalid_request", "not_found", "owner_forbidden", "request_conflict", "request_unverifiable",
    "recording_changed", "recording_not_replayable", "provider_mismatch", "device_busy",
    "startup_failed", "startup_timeout", "replay_failed", "replay_cancelled", "injection_unknown",
    "timeout", "cancelled", "cleanup_failed", "quarantined", "interrupted", "closed", "queue_full",
    "controller_lost", "shutdown_timeout", "authorization_revoked"]

/-- An exception of a call: a `LiveError` with its code, or another one. -/
inductive CallError
  | live (code : String)
  | other
  deriving DecidableEq

/-- `_safe_code`. -/
def CallError.safeCode (fallback : String) : CallError → String
  | live code => if code ∈ safeCodes then code else fallback
  | other => fallback

/-- A replay file of Lab. -/
structure Document where
  id : Option String
  recordingId : Option String
  recordingDigest : Option String
  state : Option String
  receipts : Option (List String)
  deriving DecidableEq

/-- A result of a job.  Its receipts are those of the document, which is kept here as a whole with
the number of receipts that was expected. -/
structure RunResult where
  run : Nat
  replayId : String
  document : Option Document
  expected : Nat
  deriving DecidableEq

/-- What is persisted of a job. -/
structure Job where
  owner : String
  requestId : String
  recordingId : String
  recordingDigest : String
  deviceId : String
  state : JobState
  sessionId : Option String
  repeats : Nat
  completedRuns : Nat
  results : List RunResult
  errorCode : Option String
  cancelRequested : Bool
  deriving DecidableEq

/-- A job in memory.  `late` records that a run was started after a cancel. -/
structure Entry where
  job : Job
  order : Nat
  controller : Option String
  retryBusy : Bool
  late : Bool
  deriving DecidableEq

/-- What `_terminal` makes of a job. -/
def Entry.terminal (entry : Entry) (state : JobState) (errorCode : Option String) : Entry :=
  { entry with controller := none, job := { entry.job with state, errorCode } }

/-- `outcome` of `_run`. -/
structure Outcome where
  state : JobState
  errorCode : Option String
  terminal : state.Terminal
  deriving DecidableEq

def Outcome.succeeded : Outcome := ⟨.succeeded, none, trivial⟩

def Outcome.failed (code : String) : Outcome := ⟨.failed, some code, trivial⟩

def Outcome.cancelled (code : String) : Outcome := ⟨.cancelled, some code, trivial⟩

/-- Where a worker is in `_run`, with its local variables. -/
inductive Pc
  | enter
  | startup
  | saving (session : String)
  | polling (session : String)
  | looking (session : String)
  | claiming (session : String)
  | starting (session controller : String)
  | checking (session : String) (run : Nat)
  | launching (session : String) (run : Nat)
  | waiting (session : String) (run : Nat) (replayId : String) (expected : Nat)
      (cancelSent timedOut : Bool)
  | keeping (session : String) (run : Nat) (replayId : String) (expected : Nat)
      (document : Option Document)
  | leaving (session : Option String) (outcome : Outcome)
  | closing (outcome : Outcome) (retryBusy : Bool)
  | ending (outcome : Outcome) (retryBusy : Bool)
  | releasing (retryBusy : Bool)
  /-- An exception has left the `finally` block. -/
  | dead
  deriving DecidableEq

/-- What `start_replay` and the two calls before it return. -/
structure Launch where
  recordingDigest : String
  events : Nat
  controllerId : Option String
  replayId : String

/-- What one turn of `_wait_replay` sees: the clock, the replay of the session, and its file. -/
structure Sight where
  overdue : Bool
  expired : Bool
  session : Except CallError (Option (String × String))
  file : Option (Except CallError Document)

/-- What the worker is told at its next step. -/
inductive Call
  | silent
  | clock (overdue startupOver : Bool)
  | startup (reply : Except CallError String)
  | session (reply : Except CallError String)
  | claim (reply : Except CallError String)
  | launch (reply : Except CallError Launch)
  | sight (sight : Sight)
  | closed (reply : Except CallError Bool)

/-- What `_wait_replay` returns. -/
structure ReplayResult where
  state : Option String
  timedOut : Bool
  unknown : Bool
  document : Option Document

/-- `valid_success`. -/
def Document.ValidSuccess (document : Document) (job : Job) (replayId : String) (expected : Nat) :
    Prop :=
  document.id = some replayId ∧ document.recordingId = some job.recordingId ∧
  document.recordingDigest = some job.recordingDigest ∧
  document.state = some "actions_replayed" ∧
  ∃ receipts, document.receipts = some receipts ∧ receipts.length = expected

instance (document : Document) (job : Job) (replayId : String) (expected : Nat) :
    Decidable (document.ValidSuccess job replayId expected) :=
  decidable_of_iff (document.id = some replayId ∧ document.recordingId = some job.recordingId ∧
    document.recordingDigest = some job.recordingDigest ∧
    document.state = some "actions_replayed" ∧
    ∃ receipts ∈ document.receipts, receipts.length = expected) Iff.rfl

/-- What `_wait_replay` makes of a replay file. -/
def Document.judge (document : Document) (job : Job) (replayId : String) (expected : Nat)
    (cancelSent timedOut : Bool) : ReplayResult :=
  if timedOut then ⟨some "cancelled", true, false, none⟩
  else if document.ValidSuccess job replayId expected then
    ⟨document.state, false, false, some document⟩
  else if document.state = some "actions_replayed" then ⟨some "failed", false, true, none⟩
  else ⟨document.state, false, document.state = some "failed" ∧ ¬ cancelSent, none⟩

/-- The part of a turn of `_wait_replay` after the cancellation is sent. -/
def Sight.judge (sight : Sight) (job : Job) (replayId : String) (expected : Nat)
    (cancelSent timedOut : Bool) : Option ReplayResult :=
  match sight.session with
  | .error _ => some ⟨some "failed", false, true, none⟩
  | .ok replay =>
    let ended := match replay with
      | some (id, state) =>
        if id = replayId ∧ state ∈ ["actions_replayed", "cancelled", "failed"] then
          match sight.file with
          | some (.error _) => some ⟨some "failed", false, true, none⟩
          | some (.ok document) =>
            some (document.judge job replayId expected cancelSent timedOut)
          | none =>
            if state ≠ "actions_replayed" then
              some ⟨some state, timedOut, state = "failed", none⟩
            else none
        else none
      | none => none
    match ended with
    | some result => some result
    | none =>
      if cancelSent ∧ sight.expired then some ⟨some "failed", timedOut, true, none⟩ else none

/-- What a step of a worker does.  `saves` is where an exception of the write leads, if the step
writes the job. -/
structure Move where
  entry : Entry
  next : Pc
  saves : Option Pc

namespace Pc

/-- What `_run` does with the result of `_wait_replay`.  An exception leaves the body when there is no
state in the file, and the outcome is then still the one `_run` began with. -/
def resume (session : String) (run : Nat) (replayId : String) (expected : Nat) (flag : Bool)
    (result : ReplayResult) : Pc :=
  if result.timedOut then leaving (some session) (.failed "timeout")
  else
    match result.state with
    | none => leaving (some session) .succeeded
    | some state =>
      if state = "actions_replayed" then keeping session run replayId expected result.document
      else if state = "cancelled" then
        leaving (some session) (.cancelled (if flag then "cancelled" else "replay_cancelled"))
      else
        leaving (some session)
          (.failed (if result.unknown then "injection_unknown" else "replay_failed"))

/-- The next step of a worker whose `cancel` event is set if `flag` is. -/
def step (entry : Entry) (flag : Bool) : Pc → Call → Option Move
  | enter, .silent =>
    some ⟨entry, if flag then leaving none (.cancelled "cancelled") else startup, none⟩
  | startup, .startup (.ok session) => some ⟨entry, saving session, none⟩
  | startup, .startup (.error e) =>
    if e = .live "device_busy" then
      some ⟨{ entry with retryBusy := true }, leaving none .succeeded, none⟩
    else some ⟨entry, leaving none (.failed (e.safeCode "startup_failed")), none⟩
  | saving session, .silent =>
    some ⟨{ entry with job := { entry.job with sessionId := some session } }, polling session,
      some (leaving (some session) .succeeded)⟩
  | polling session, .clock overdue startupOver =>
    some ⟨entry,
      if flag then leaving (some session) (.cancelled "cancelled")
      else if startupOver then
        leaving (some session) (.failed (if overdue then "timeout" else "startup_timeout"))
      else looking session, none⟩
  | looking session, .session (.error _) =>
    some ⟨entry, leaving (some session) (.failed "startup_failed"), none⟩
  | looking session, .session (.ok state) =>
    some ⟨entry,
      if state = "active" then claiming session
      else if state ∈ ["failed", "closed", "draining"] then
        leaving (some session) (.failed (if state = "failed" then "quarantined" else "startup_failed"))
      else polling session, none⟩
  | claiming session, .claim (.error _) =>
    some ⟨entry, leaving (some session) (.failed (if flag then "cancelled" else "controller_lost")),
      none⟩
  | claiming session, .claim (.ok controller) => some ⟨entry, starting session controller, none⟩
  | starting session controller, .silent =>
    some ⟨{ entry with controller := some controller, job := { entry.job with state := .running } },
      checking session 1, some (leaving (some session) .succeeded)⟩
  | checking session run, .clock overdue _ =>
    some ⟨entry,
      if entry.job.repeats < run then leaving (some session) .succeeded
      else if flag then leaving (some session) (.cancelled "cancelled")
      else if overdue then leaving (some session) (.failed "timeout")
      else launching session run, none⟩
  | launching session _, .launch (.error e) =>
    some ⟨entry, leaving (some session)
      (if flag then .cancelled "cancelled" else .failed (e.safeCode "replay_failed")), none⟩
  | launching session run, .launch (.ok launch) =>
    if launch.recordingDigest ≠ entry.job.recordingDigest then
      some ⟨entry, leaving (some session) (.failed "recording_changed"), none⟩
    else if entry.controller = none ∨ launch.controllerId ≠ entry.controller then
      some ⟨entry, leaving (some session) (.failed "controller_lost"), none⟩
    else
      some ⟨{ entry with late := entry.late || entry.job.cancelRequested },
        waiting session run launch.replayId launch.events false false, none⟩
  | waiting session run replayId expected cancelSent timedOut, .sight sight =>
    let timedOut := timedOut || sight.overdue && !(cancelSent || flag)
    let cancelSent := cancelSent || flag || sight.overdue
    some ⟨entry,
      match sight.judge entry.job replayId expected cancelSent timedOut with
      | some result => resume session run replayId expected flag result
      | none => waiting session run replayId expected cancelSent timedOut, none⟩
  | keeping session run replayId expected document, .silent =>
    some ⟨{ entry with job := { entry.job with
        results := entry.job.results ++ [⟨run, replayId, document, expected⟩]
        completedRuns := run } }, checking session (run + 1), some (leaving (some session) .succeeded)⟩
  | leaving session outcome, .silent =>
    match session with
    | some _ =>
      some ⟨{ entry with retryBusy := false, job := { entry.job with state := .cleaning } },
        closing outcome entry.retryBusy, some (ending (.failed "cleanup_failed") entry.retryBusy)⟩
    | none =>
      some ⟨{ entry with retryBusy := false },
        if ¬ entry.retryBusy ∧ ¬ entry.job.state.Terminal then ending outcome entry.retryBusy
        else releasing entry.retryBusy, none⟩
  | closing outcome retryBusy, .closed (.ok true) => some ⟨entry, ending outcome retryBusy, none⟩
  | closing _ retryBusy, .closed _ =>
    some ⟨entry, ending (.failed "cleanup_failed") retryBusy, none⟩
  | ending outcome retryBusy, .silent =>
    if entry.job.state.Terminal then some ⟨entry, releasing retryBusy, none⟩
    else
      some ⟨entry.terminal outcome.state outcome.errorCode, releasing retryBusy, some dead⟩
  | _, _ => none

/-- The exception of a step has left the body of `_run` before its last run. -/
def escapes (repeats : Nat) : Pc → Pc → Bool
  | saving _, leaving .. => true
  | starting .., leaving .. => true
  | waiting .., leaving _ outcome => outcome.state = .succeeded
  | keeping _ run _ _ _, leaving .. => run < repeats
  | _, _ => false

end Pc

end Reproof.Live.Jobs

import Reproof.Repair.Lifecycle
import Reproof.Repair.Writes

/-! The repair jobs of a project and the threads that run them. -/

namespace Reproof.Repair

open Library Contracts Execution.Wire

/-- Where the thread of a job is in `run`: `pinning` up to `claim`, `executing` in the body of
`execute`, `handling` and `handled` in its `except`, `returning` in its `finally`, `failing` and
`finishing` in the `except` of `run`, and `leaving` before its `finally`. -/
inductive Stage
  | pinning
  | executing
  | handling
  | handled
  | returning
  | failing
  | finishing (cancelled : Bool)
  | leaving
  deriving DecidableEq

/-- The thread has yet to finish its job. -/
def Stage.Active (stage : Stage) : Prop := stage ≠ .returning ∧ stage ≠ .leaving

instance : DecidablePred Stage.Active := fun _ => inferInstanceAs (Decidable (_ ∧ _))

/-- A `start` that holds the lock, up to its next call. -/
inductive Starting
  | entered (creation : Creation) (existing : Bool)
  | created (identifier : String)
  | bound (identifier : String)

/-- `threads` for `_threads`, and `joining` for the threads that a `close` waits for. A journal that is
closed, or `None`, is not ready. -/
structure ProjectRepairJobs where
  journal : Journal
  maxJobs : Nat
  slots : Nat
  threads : Dict String Stage
  starting : Option Starting
  closed : Bool
  joining : Option (List String)

namespace ProjectRepairJobs

/-- The job is between `create` and its thread. -/
def Started (jobs : ProjectRepairJobs) (id : String) : Prop :=
  jobs.starting = some (.created id) ∨ jobs.starting = some (.bound id)

/-- The slot of the `start` that holds the lock. -/
def held (jobs : ProjectRepairJobs) : Nat :=
  match jobs.starting with
  | none => 0
  | some (.entered _ existing) => if existing then 0 else 1
  | some (.created _) => 1
  | some (.bound _) => 1

def setStage (id : String) (stage : Stage) (jobs : ProjectRepairJobs) : ProjectRepairJobs :=
  { jobs with threads := jobs.threads.set id stage }

/-- `finally: if acquired: self._slots.release()`. -/
def abandon (jobs : ProjectRepairJobs) : ProjectRepairJobs :=
  { jobs with
    slots := jobs.slots + jobs.held
    starting := none }

/-- A section of the journal and what follows it; `none` when the process dies in it. -/
def inJournal (jobs : ProjectRepairJobs) (p : Step α) (answers : List Answer)
    (next : Except Failure α → ProjectRepairJobs → ProjectRepairJobs) : Option ProjectRepairJobs :=
  match p.run answers jobs.journal with
  | (.done a, _, journal) => some (next (.ok a) { jobs with journal })
  | (.raised failure, _, journal) => some (next (.error failure) { jobs with journal })
  | (.crashed, _, _) => none

/-- `start`, once it has checked its request, up to `create`. -/
def enter (creation : Creation) (jobs : ProjectRepairJobs) : ProjectRepairJobs :=
  if jobs.closed = true ∨ jobs.journal.ready = false then jobs
  else if (jobs.journal.find creation).isSome then
    { jobs with starting := some (.entered creation true) }
  else if jobs.slots = 0 then jobs
  else
    { jobs with
      slots := jobs.slots - 1
      starting := some (.entered creation false) }

end ProjectRepairJobs

section

variable (python : Interpreter)

/-- `runtime.create`. -/
def createJob (checked : Bool) (creation : Creation) : Step Document := do
  require (checked = true) "repair_request"
  create python creation

/-- `get`, when the database can be read. -/
def look (identifier : String) : Step Document := do
  let _ ← files .os
  get identifier

/-- `if not self.journal.claim(identifier): return self.journal.get(identifier)`. -/
def claimJob (identifier : String) : Step Bool := do
  let claimed ← claim python identifier
  if claimed = true then pure true
  else do
    let _ ← look identifier
    pure false

/-- `{'verified': False}`. -/
def unverified : Json := .dict [("verified", .bool false)]

/-- `finish` with fixed metadata. -/
def finishUnavailable (identifier : String) (status : Status) : Step Document :=
  finish python identifier status (.str "repair_unavailable") unverified none

/-- The truth of `job['plan']`. -/
def Document.planned (document : Document) : Bool :=
  match document.fields.get? "plan" with
  | none => false
  | some .null => false
  | some (.dict []) => false
  | some _ => true

/-- A pass of `apply_retention` of the service: whether the original evidence is still there. -/
def retainSource (nowMs : Int) (document : Document) : Step Unit :=
  if document.outputsExpired = true ∨ document.planned = false then pure ()
  else do
    let answer ← Prog.answer
    match answer.fate with
    | .done => if answer.ok = true then pure () else expire python document.id nowMs
    | _ => Prog.raise .os

def retainJobs (nowMs : Int) : Step Unit := do
  let journal ← Prog.read
  require (journal.ready = true) "repair_storage"
  each (retainSource python nowMs) (journal.rows.values.map Row.body)
  applyRetention python nowMs

/-- `close`, under its first lock. -/
def cancelJobs : Step Unit := do
  let journal ← Prog.read
  each (fun document =>
    if document.status.Terminal then pure ()
    else do
      let _ ← cancel python document.id) (journal.rows.values.map Row.body)

variable {python}

/-- The sections that `execute` enters for its job between `claim` and `finish`. -/
def Call.Within (identifier : String) : Call python → Prop
  | .update id changes => id = identifier ∧ changes.status = none
  | .cancel id => id = identifier
  | .writeBlobs id _ _ => id = identifier
  | .beginSnapshotOutput id _ _ => id = identifier
  | .writeSidecar _ _ _ => True
  | .beginComplete _ _ => True
  | .endComplete _ => True
  | .leaveSnapshotOutput _ _ => True
  | _ => False

instance (identifier : String) (call : Call python) : Decidable (call.Within identifier) := by
  cases call <;> unfold Call.Within <;> infer_instance

variable (python) in
/-- What a thread does next, with what the calls of it answer. -/
inductive Move
  | fail
  | claim (answers : List Answer)
  | call (call : Call python) (answers : List Answer)
  | raise (caught : Bool)
  | finish (status : Status) (reason result : Json) (attempts : Option Json) (answers : List Answer)
  | look (read : Answer)
  | cancel (answers : List Answer)
  | discard (ok : Bool)
  | settle (clock written : Answer)
  | sever
  | leave

namespace ProjectRepairJobs

variable (python) in
/-- A step of the thread of `id`; one that is not the next of its stage does nothing. -/
def work (id : String) (jobs : ProjectRepairJobs) : Stage → Move python → Option ProjectRepairJobs
  | .leaving, .sever => some jobs
  | _, .sever => some (jobs.setStage id .leaving)
  | .pinning, .fail => some (jobs.setStage id .failing)
  | .pinning, .claim answers => jobs.inJournal (claimJob python id) answers fun
    | .ok claimed => setStage id (if claimed = true then .executing else .leaving)
    | .error _ => setStage id .failing
  | .executing, .call call answers =>
    if call.Within id then jobs.inJournal call.body answers fun
      | .ok _ => fun jobs => jobs
      | .error _ => setStage id .handling
    else some jobs
  | .executing, .raise caught => some (jobs.setStage id (if caught = true then .handling else .failing))
  | .executing, .finish status reason result attempts answers =>
    jobs.inJournal (Repair.finish python id status reason result attempts) answers fun
      | .ok _ => setStage id .returning
      | .error _ => setStage id .handling
  | .handling, .look read => jobs.inJournal (Repair.look id) [read] fun
    | .ok document => setStage id (if document.status.Terminal then .returning else .handled)
    | .error _ => setStage id .failing
  | .handled, .raise _ => some (jobs.setStage id .failing)
  | .handled, .cancel answers => jobs.inJournal (Repair.cancel python id) answers fun
    | .ok _ => fun jobs => jobs
    | .error _ => setStage id .failing
  | .handled, .finish status reason result attempts answers =>
    jobs.inJournal (Repair.finish python id status reason result attempts) answers fun
      | .ok _ => setStage id .returning
      | .error _ => setStage id .failing
  | .returning, .discard ok => some (jobs.setStage id (if ok = true then .leaving else .failing))
  | .failing, .look read => jobs.inJournal (Repair.look id) [read] fun
    | .ok document =>
      setStage id (if document.status.Terminal then .leaving else .finishing document.cancelRequested)
    | .error _ => setStage id .leaving
  | .finishing cancelled, .settle clock written =>
    jobs.inJournal (finishUnavailable python id (if cancelled = true then .cancelled else .failed))
      [clock, written] fun _ => setStage id .leaving
  | .leaving, .leave =>
    if jobs.starting.isSome then some jobs
    else some
      { jobs with
        threads := jobs.threads.erase id
        slots := jobs.slots + 1 }
  | _, _ => some jobs

end ProjectRepairJobs

variable (python) in
/-- A call of the service up to its next release of a lock, or a step of one of its threads. The name of
a new job is `uuid4().hex`. -/
inductive Act
  | enter (creation : Creation)
  | register (checked : Bool) (made inserted synced written : Answer)
    (hex : isIdentifier ("repair_" ++ made.uuid))
  | bind (ok : Bool)
  | launch (started : Bool) (clock written : Answer)
  | work (id : String) (move : Move python)
  | cancel (id : String) (answers : List Answer)
  | retain (nowMs : Int) (answers : List Answer)
  | close (answers : List Answer)
  | endClose (nowMs : Int) (answers : List Answer)

namespace Act

open ProjectRepairJobs

/-- `create`, `bind_resource` and the thread of a `start`. -/
def applyStart (jobs : ProjectRepairJobs) : Starting → Act python → Option ProjectRepairJobs
  | .entered creation existing, register checked made inserted synced written _ =>
    jobs.inJournal (createJob python checked creation) [made, inserted, synced, written] fun
      | .ok document => fun jobs =>
        if existing then jobs.abandon else { jobs with starting := some (.created document.id) }
      | .error _ => abandon
  | .created id, bind ok =>
    some (if ok then { jobs with starting := some (.bound id) } else jobs.abandon)
  | .bound id, launch started clock written =>
    if started then some
      { jobs with
        starting := none
        threads := jobs.threads.set id .pinning }
    else jobs.inJournal (finishUnavailable python id .failed) [clock, written] fun _ => abandon
  | _, _ => some jobs

/-- What takes the lock of the service. -/
def applyFree (jobs : ProjectRepairJobs) : Act python → Option ProjectRepairJobs
  | enter creation => some (jobs.enter creation)
  | retain nowMs answers => jobs.inJournal (retainJobs python nowMs) answers fun _ jobs => jobs
  | close answers =>
    if jobs.journal.ready = true then
      { jobs with closed := true }.inJournal (cancelJobs python) answers fun
        | .ok _ => fun jobs => { jobs with joining := some jobs.threads.keys }
        | .error _ => fun jobs => jobs
    else some { jobs with closed := true }
  | endClose nowMs answers =>
    match jobs.joining with
    | none => some jobs
    | some threads =>
      if ∃ id ∈ threads, id ∈ jobs.threads.keys then some { jobs with joining := none }
      else { jobs with joining := none }.inJournal (applyRetention python nowMs) answers fun
        | .ok _ => fun jobs => { jobs with journal := { jobs.journal with ready := false } }
        | .error _ => fun jobs => jobs
  | _ => some jobs

def apply (act : Act python) (jobs : ProjectRepairJobs) : Option ProjectRepairJobs :=
  match act with
  | work id move =>
    match jobs.threads.get? id with
    | some stage => jobs.work python id stage move
    | none => some jobs
  | cancel id answers => jobs.inJournal (Repair.cancel python id) answers fun _ jobs => jobs
  | act =>
    match jobs.starting with
    | some starting => act.applyStart jobs starting
    | none => act.applyFree jobs

end Act

/-- What happens in turn, up to a crash. -/
def ProjectRepairJobs.run (jobs : ProjectRepairJobs) : List (Act python) → Option ProjectRepairJobs
  | [] => some jobs
  | act :: acts => (act.apply jobs).bind fun after => after.run acts

variable (python) in
/-- The constructor, on the journal that an earlier process has left. -/
def openJobs (config : Config) (maxJobs : Nat) (nowMs : Int) : Step Unit := do
  require (1 ≤ maxJobs ∧ maxJobs ≤ 4) "repair_configuration"
  restart python config
  let _ ← files .os
  applyRetention python nowMs

variable (python) in
def ProjectRepairJobs.opened (config : Config) (maxJobs : Nat) (nowMs : Int) (answers : List Answer)
    (left : Journal) : Option ProjectRepairJobs :=
  match (openJobs python config maxJobs nowMs).run answers left with
  | (.done _, _, journal) => some ⟨journal, maxJobs, maxJobs, .empty, none, false, none⟩
  | _ => none

end

end Reproof.Repair

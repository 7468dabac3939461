import Reproof.Library.Prog
import Reproof.Live.Jobs.Worker

/-! `JobQueue` of `jobs.py`.  Each program here runs under the lock of the queue; a write of a job
that fails has had no effect. -/

namespace Reproof.Live.Jobs

open Library

structure Config where
  maxRunning : Nat
  maxPending : Nat
  runningBounded : 1 ≤ maxRunning ∧ maxRunning ≤ 64
  pendingBounded : 1 ≤ maxPending ∧ maxPending ≤ 10000

/-- `cancelled` holds the `cancel` event of each job that has one. -/
structure Queue where
  jobs : Dict String Entry
  assigned : Dict String String
  cancelled : Dict String Bool
  workers : Dict String Pc
  closed : Bool
  nextOrder : Nat

def Queue.empty : Queue := ⟨.empty, .empty, .empty, .empty, false, 0⟩

/-- What is worth knowing of the past: an exception that left the body of `_run`, a write of a
terminal job that failed, and a cancel that came between the check of a run and its start. -/
inductive Fault
  | escaped (id : String)
  | unsaved (id : String)
  | raced (id : String)
  deriving DecidableEq

structure Site where
  queue : Queue
  disk : Dict String Job
  faults : List Fault

inductive Failure
  | invalid
  | closed
  | full
  | notFound
  | forbidden
  | os

abbrev Control := Prog Failure Fate Site

instance : Inhabited Fate := ⟨.done⟩

namespace Site

variable (site : Site) (id : String)

def entry : Option Entry := site.queue.jobs.get? id

def pc : Option Pc := site.queue.workers.get? id

def saved : Option Job := site.disk.get? id

def flag : Bool := site.queue.cancelled.get? id = some true

def put (entry : Entry) : Site :=
  { site with queue := { site.queue with jobs := site.queue.jobs.set id entry } }

/-- A further job, after all the others. -/
def add (entry : Entry) : Site :=
  { site with
    queue := { site.queue with
      jobs := site.queue.jobs.set id entry
      nextOrder := site.queue.nextOrder + 1 } }

def place (pc : Pc) : Site :=
  { site with queue := { site.queue with workers := site.queue.workers.set id pc } }

def raise (flag : Bool) : Site :=
  { site with queue := { site.queue with cancelled := site.queue.cancelled.set id flag } }

def assign (deviceId : String) : Site :=
  { site with queue := { site.queue with assigned := site.queue.assigned.set deviceId id } }

/-- The reservation, the worker and the event of a job go. -/
def free (deviceId : String) : Site :=
  { site with
    queue := { site.queue with
      assigned := site.queue.assigned.erase deviceId
      workers := site.queue.workers.erase id
      cancelled := site.queue.cancelled.erase id } }

def save (job : Job) : Site := { site with disk := site.disk.set id job }

def shut : Site := { site with queue := { site.queue with closed := true } }

def log (faults : List Fault) : Site := { site with faults := site.faults ++ faults }

/-- A cancel that comes now comes between the check of a run and its start. -/
def race : List Fault :=
  match site.pc id with
  | some (.launching ..) => [.raced id]
  | _ => []

end Site

/-- `_persist`. -/
def persist (id : String) : Control Unit := do
  let site ← Prog.read
  match site.entry id with
  | none => return ()
  | some entry =>
    let fate ← Prog.answer
    Prog.commit (·.save id entry.job) .os fate

/-- `_terminal`. -/
def terminal (id : String) (state : JobState) (errorCode : Option String) : Control Unit := do
  let site ← Prog.read
  match site.entry id with
  | none => return ()
  | some entry =>
    if entry.job.state.Terminal then return ()
    else do
      Prog.modify (·.put id (entry.terminal state errorCode))
      Prog.rescue (persist id) fun e => do
        Prog.modify (·.log [.unsaved id])
        .raise e

section Submit

variable (config : Config)

/-- A new job of `submit`. -/
def Entry.new (owner requestId recordingId recordingDigest deviceId : String) (repeats order : Nat) :
    Entry :=
  { job :=
      ⟨owner, requestId, recordingId, recordingDigest, deviceId, .queued, none, repeats, 0, [], none,
        false⟩
    order, controller := none, retryBusy := false, late := false }

/-- `submit`; `id` is the new `uuid4`, and `bound` is whether the resource binder returned. -/
def submit (owner requestId id recordingId recordingDigest deviceId : String) (repeats : Nat)
    (bound : Bool) : Control Unit := do
  Prog.ensure (1 ≤ repeats ∧ repeats ≤ 10) .invalid
  let site ← Prog.read
  Prog.ensure (site.queue.closed = false) .closed
  if ∃ entry ∈ site.queue.jobs.values, entry.job.owner = owner ∧ entry.job.requestId = requestId then
    return ()
  else
    let pending := site.queue.jobs.values.filter fun entry => ¬ entry.job.state.Terminal
    Prog.ensure (pending.length < config.maxPending) .full
    Prog.ensure (bound ∧ id ∉ site.queue.jobs.keys ∧ id ∉ site.disk.keys) .invalid
    let order := site.queue.nextOrder
    Prog.modify (·.add id
      (.new owner requestId recordingId recordingDigest deviceId repeats order))
    persist id

end Submit

/-- `cancel`. -/
def cancel (id owner : String) : Control Unit := do
  let site ← Prog.read
  match site.entry id with
  | none => .raise .notFound
  | some entry =>
    Prog.ensure (entry.job.owner = owner) .forbidden
    if entry.job.state.Terminal then return ()
    else if entry.job.state = .queued then terminal id .cancelled (some "cancelled")
    else do
      Prog.modify fun site => ((site.raise id true).put id
        { entry with job := { entry.job with cancelRequested := true } }).log (site.race id)
      persist id

/-- What a pass of the dispatcher learns: the deadlines, the devices that are available, those that
were busy a moment ago, and the jobs that are still authorized. -/
structure Pass where
  overdue : String → Bool
  available : String → Bool
  retrying : String → Bool
  authorized : String → Bool

namespace Pass

variable (pass : Pass)

/-- Queued jobs whose deadline has passed fail. -/
def expire : List String → Control Unit
  | [] => return ()
  | id :: ids => do
    let site ← Prog.read
    match site.entry id with
    | none => expire ids
    | some entry =>
      if entry.job.state = .queued ∧ pass.overdue id then do
        terminal id .failed (some "timeout")
        expire ids
      else expire ids

/-- The job is assigned, and gets a worker once that is written. -/
def start (id : String) (entry : Entry) : Control Unit := do
  Prog.modify fun site => ((site.assign id entry.job.deviceId).raise id false).put id
    { entry with job := { entry.job with state := .starting } }
  persist id
  Prog.modify (·.place id .enter)

/-- Some queued job of the same device is older. -/
def Younger (queue : Queue) (queued : List String) (entry : Entry) : Prop :=
  ∃ older ∈ queued.filterMap queue.jobs.get?, older.job.deviceId = entry.job.deviceId ∧
    older.job.state = .queued ∧ older.order < entry.order

instance (queue : Queue) (queued : List String) (entry : Entry) :
    Decidable (Younger queue queued entry) := by
  unfold Younger
  infer_instance

/-- The queued jobs in turn, until one is started. -/
def consider (queued taken : List String) : List String → Control Unit
  | [] => return ()
  | id :: rest => do
    let site ← Prog.read
    match site.entry id with
    | none => consider queued taken rest
    | some entry =>
      let device := entry.job.deviceId
      if device ∈ taken ∨ pass.available device = false ∨ Younger site.queue queued entry ∨
          pass.retrying device then consider queued taken rest
      else if pass.authorized id = false then do
        terminal id .failed (some "authorization_revoked")
        consider queued taken rest
      else start id entry

/-- The ids of the queued jobs, the oldest first. -/
def queued (queue : Queue) : List String :=
  ((queue.jobs.entries.filter fun e => e.2.job.state = .queued).mergeSort
    fun a b => a.2.order ≤ b.2.order).map Prod.fst

end Pass

/-- A pass of `_dispatch`. -/
def dispatch (config : Config) (pass : Pass) : Control Unit := do
  let site ← Prog.read
  pass.expire site.queue.jobs.keys
  let site ← Prog.read
  if site.queue.assigned.keys.length < config.maxRunning then
    pass.consider (Pass.queued site.queue) site.queue.assigned.keys (Pass.queued site.queue)
  else return ()

/-- The end of `_run`: the reservation goes, and a job that found its device busy goes back. -/
def release (id : String) (entry : Entry) (retryBusy : Bool) : Control Unit := do
  let site ← Prog.read
  Prog.modify (·.free id entry.job.deviceId)
  if retryBusy then
    if site.flag id ∨ site.queue.closed then terminal id .cancelled (some "cancelled")
    else do
      Prog.modify (·.put id { entry with job := { entry.job with state := .queued } })
      persist id
  else return ()

/-- What is worth knowing of a worker that goes from one place to another. -/
def Pc.faults (id : String) (entry : Entry) (before after : Pc) : List Fault :=
  if before.escapes entry.job.repeats after then [.escaped id]
  else if after = .dead then [.unsaved id]
  else []

/-- A worker goes from one place to another, with what becomes of its job. -/
def Site.turn (site : Site) (id : String) (entry : Entry) (before after : Pc) : Site :=
  ((site.put id entry).place id after).log (before.faults id entry after)

/-- A step of the worker of a job. -/
def work (id : String) (call : Call) : Control Unit := do
  let site ← Prog.read
  match site.pc id, site.entry id with
  | some (.releasing retryBusy), some entry =>
    match call with
    | .silent => release id entry retryBusy
    | _ => return ()
  | some pc, some entry =>
    match pc.step entry (site.flag id) call with
    | none => return ()
    | some move =>
      Prog.modify (·.turn id move.entry pc move.next)
      match move.saves with
      | none => return ()
      | some failed => Prog.rescue (persist id) fun _ => Prog.modify (·.turn id move.entry pc failed)
  | _, _ => return ()

section Close

/-- `close` cancels what is queued, and asks the workers to stop. -/
def closeJobs : List String → Control Unit
  | [] => return ()
  | id :: ids => do
    let site ← Prog.read
    match site.entry id with
    | none => closeJobs ids
    | some entry =>
      if entry.job.state = .queued then do
        terminal id .cancelled (some "cancelled")
        closeJobs ids
      else if entry.job.state.Active then do
        Prog.modify (·.raise id true)
        closeJobs ids
      else closeJobs ids

/-- The first half of `close`. -/
def close : Control Unit := do
  let site ← Prog.read
  if site.queue.closed then return ()
  else do
    Prog.modify (·.shut)
    closeJobs site.queue.jobs.keys

/-- The second half of `close`: the workers that are still alive are not waited for any longer. -/
def abandon (alive : String → Bool) : List String → Control Unit
  | [] => return ()
  | id :: ids => do
    let site ← Prog.read
    match site.entry id, site.pc id with
    | some entry, some pc =>
      if ¬ entry.job.state.Terminal ∧ pc ≠ .dead ∧ alive id then do
        Prog.modify (·.put id { entry with job := { entry.job with
          state := .cleaning, errorCode := some "shutdown_timeout" } })
        persist id
        abandon alive ids
      else abandon alive ids
    | _, _ => abandon alive ids

end Close

/-- `_load`: the files that can be read, in the order of their names. -/
def load (readable : String → Bool) : List String → Control Unit
  | [] => return ()
  | id :: ids => do
    let site ← Prog.read
    match site.saved id with
    | none => load readable ids
    | some job =>
      if readable id then do
        let order := site.queue.nextOrder
        if job.state.Terminal then do
          Prog.modify (·.add id ⟨job, order, none, false, false⟩)
          load readable ids
        else do
          Prog.modify (·.add id
            ⟨{ job with state := .interrupted, errorCode := some "interrupted" }, order, none, false,
              false⟩)
          persist id
          load readable ids
      else load readable ids

/-- The queue of the process, and the files of the jobs. -/
structure World where
  queue : Option Queue
  disk : Dict String Job
  faults : List Fault

inductive World.Event
  | submit (owner requestId id recordingId recordingDigest deviceId : String) (repeats : Nat)
      (bound : Bool) (answers : List Fate)
  | cancel (id owner : String) (answers : List Fate)
  | dispatch (pass : Pass) (answers : List Fate)
  | work (id : String) (call : Call) (answers : List Fate)
  | close (answers : List Fate)
  | abandon (alive : String → Bool) (answers : List Fate)
  | restart (readable : String → Bool) (answers : List Fate)

namespace World

variable (config : Config)

def start : World := ⟨none, .empty, []⟩

/-- The queue is lost with its process. -/
def serve (disk : Dict String Job) (faults : List Fault) (queue : Queue) (p : Control Unit)
    (answers : List Fate) : World :=
  match p.run answers ⟨queue, disk, faults⟩ with
  | (.done _, _, site) => ⟨some site.queue, site.disk, site.faults⟩
  | (.raised _, _, site) => ⟨some site.queue, site.disk, site.faults⟩
  | (.crashed, _, site) => ⟨none, site.disk, site.faults⟩

/-- A queue is there when its constructor has returned. -/
def reopen (disk : Dict String Job) (faults : List Fault) (readable : String → Bool)
    (answers : List Fate) : World :=
  match (load readable (disk.keys.mergeSort (· ≤ ·))).run answers ⟨.empty, disk, faults⟩ with
  | (.done _, _, site) => ⟨some site.queue, site.disk, site.faults⟩
  | (.raised _, _, site) => ⟨none, site.disk, site.faults⟩
  | (.crashed, _, site) => ⟨none, site.disk, site.faults⟩

/-- The program of an event, and what the system answers to it. -/
def Event.program (queue : Queue) : Event → Control Unit × List Fate
  | .submit owner requestId id recordingId recordingDigest deviceId repeats bound answers =>
    (Jobs.submit config owner requestId id recordingId recordingDigest deviceId repeats bound,
      answers)
  | .cancel id owner answers => (Jobs.cancel id owner, answers)
  | .dispatch pass answers => (Jobs.dispatch config pass, answers)
  | .work id call answers => (Jobs.work id call, answers)
  | .close answers => (Jobs.close, answers)
  | .abandon alive answers => (if queue.closed then Jobs.abandon alive queue.jobs.keys else return (),
      answers)
  | .restart _ answers => (return (), answers)

def apply (w : World) (event : Event) : World :=
  match event, w.queue with
  | .restart readable answers, _ => reopen w.disk w.faults readable answers
  | event, some queue =>
    let program := event.program config queue
    serve w.disk w.faults queue program.1 program.2
  | _, none => w

def run (events : List Event) : World := events.foldl (apply config) start

end World

end Reproof.Live.Jobs

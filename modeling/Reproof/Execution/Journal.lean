import Reproof.Contracts.Versions
import Reproof.Library.Checked
import Reproof.Library.Dict
import Reproof.Library.Prog

/-! The execution journal of `journal.py`.  Each program here runs under the control lock; between
its durable steps the process may crash, and a step that fails has had no effect. -/

namespace Reproof.Execution

open Contracts Library

inductive RunState
  | admitted | quarantined | succeeded | failed | cancelled
  deriving DecidableEq

/-- `TERMINAL`. -/
def RunState.Terminal : RunState → Prop
  | .succeeded | .failed | .cancelled => True
  | .admitted | .quarantined => False

instance : DecidablePred RunState.Terminal := fun state => by
  cases state <;> unfold RunState.Terminal <;> infer_instance

def maxRuns : Nat := 512
def maxBytes : Int := 512 * 1024 ^ 3
def maxArchived : Nat := 2 ^ 31 - 1

def ownedOverlayFiles : List String := ["disk.img", "auxiliary.bin", "termination.json"]

structure Record where
  requestDigest : String
  state : RunState
  reservedBytes : Int
  deriving DecidableEq

inductive ScopeKind
  | vm | host | signing | mobileDevice
  deriving DecidableEq

structure Scope where
  kind : ScopeKind
  scopeDigest : String
  deriving DecidableEq

/-- What `state.json` says of the archive directory. -/
structure Archive where
  count : Nat
  digest : String

/-- `state.json`. -/
structure Document where
  environmentDigest : String
  runs : Dict String Record
  scope : Option Scope
  archive : Option Archive

/-- A file of the archive directory. -/
@[ext] structure ArchiveDocument where
  operationId : String
  requestDigest : String
  state : RunState
  reservedBytes : Int

/-- `termination.json`. -/
structure Termination where
  operationId : String
  requestDigest : String
  /-- `stopped` or `not-started`, and not something else. -/
  stopped : Bool
  deriving DecidableEq

structure RunFile where
  name : String
  regular : Bool
  termination : Option Termination
  deriving DecidableEq

/-- A directory of `runs`; `isPrivate` when its owner and mode are as they should be. -/
structure RunDirectory where
  identity : Nat
  isPrivate : Bool
  files : List RunFile
  deriving DecidableEq

/-- What is on disk under the root of a journal. -/
structure Journal where
  state : Document
  archived : Dict String ArchiveDocument
  directories : Dict String RunDirectory
  cancellations : Dict String String

/-- `RunDenied`, a rejected argument, a failed system call, or a missing key. -/
inductive Failure
  | denied (message : String)
  | contract
  | os
  | key
  deriving DecidableEq

/-- One answer of the system: the fate of a call and what it returns. -/
structure Answer where
  fate : Fate := .done
  value : Nat := 512 * 1024 ^ 3

/-- By default a call succeeds, and the disk is empty. -/
instance : Inhabited Answer := ⟨{}⟩

abbrev Control := Prog Failure Answer Journal

/-- A system call that leaves the journal as it is. -/
def call (e : Failure) : Control Nat := do
  let w ← Prog.answer
  match w.fate with
  | .done => return w.value
  | .failed _ => .raise e
  | .crashed _ => .crash

/-- A durable step. -/
def durable (f : Journal → Journal) (e : Failure) : Control Unit := do
  let w ← Prog.answer
  Prog.commit f e w.fate

def check (p : Prop) [Decidable p] (message : String) : Control Unit :=
  Prog.ensure p (.denied message)

def validate (p : Prop) [Decidable p] : Control Unit := Prog.ensure p .contract

def Record.Accepted (operationId : String) (record : Record) : Prop :=
  isIdentifier operationId ∧ isDigest record.requestDigest ∧
  (0 ≤ record.reservedBytes ∧ record.reservedBytes ≤ maxBytes) ∧
  (record.state.Terminal → record.reservedBytes = 0)

instance (operationId : String) : DecidablePred (Record.Accepted operationId) :=
  fun _ => inferInstanceAs (Decidable (_ ∧ _))

def Record.quarantine (record : Record) : Record :=
  if record.state = .admitted then { record with state := .quarantined } else record

theorem Record.quarantine_of_live {r : Record} (live : ¬ r.state.Terminal) :
    r.quarantine.state = .quarantined := by
  unfold quarantine
  cases state : r.state <;> simp_all [RunState.Terminal]

theorem Record.quarantine_of_terminal {r : Record} (terminal : r.state.Terminal) :
    r.quarantine = r := by
  unfold quarantine
  rw [if_neg]
  intro admitted
  rw [admitted] at terminal
  exact terminal

@[simp] theorem Record.quarantine_reservedBytes {r : Record} :
    r.quarantine.reservedBytes = r.reservedBytes := by
  unfold quarantine
  split <;> rfl

@[simp] theorem Record.quarantine_requestDigest {r : Record} :
    r.quarantine.requestDigest = r.requestDigest := by
  unfold quarantine
  split <;> rfl

theorem Record.quarantine_ne_admitted {r : Record} : r.quarantine.state ≠ .admitted := by
  unfold quarantine
  split
  · nofun
  · rename_i settled
    exact settled

theorem Record.Accepted.quarantine {operationId : String} {r : Record}
    (accepted : r.Accepted operationId) : r.quarantine.Accepted operationId := by
  by_cases terminal : r.state.Terminal
  · rw [Record.quarantine_of_terminal terminal]
    exact accepted
  · obtain ⟨identifier, digest, bytes, -⟩ := accepted
    refine ⟨identifier, ?_, ?_, ?_⟩
    · rw [Record.quarantine_requestDigest]
      exact digest
    · rw [Record.quarantine_reservedBytes]
      exact bytes
    · rw [Record.quarantine_of_live terminal]
      exact False.elim

def ArchiveDocument.Accepted (name : String) (document : ArchiveDocument) : Prop :=
  document.operationId = name ∧ document.state.Terminal ∧ document.reservedBytes = 0 ∧
  isDigest document.requestDigest

instance (name : String) : DecidablePred (ArchiveDocument.Accepted name) :=
  fun _ => inferInstanceAs (Decidable (_ ∧ _))

/-- The document a terminal record is archived as. -/
def Record.document (operationId : String) (record : Record) : ArchiveDocument :=
  ⟨operationId, record.requestDigest, record.state, 0⟩

/-- The records that are archived and still in `runs`. -/
def Journal.pending (journal : Journal) : List String :=
  journal.archived.keys.filter (· ∈ journal.state.runs.keys)

/-- A `RunStore`; `digest` is the digest of a list of archive documents. -/
structure RunStore where
  environmentDigest : String
  diskLimit : Int
  digest : List ArchiveDocument → String
  environmentValid : isDigest environmentDigest
  digestValid : ∀ documents, isDigest (digest documents)
  diskBounded : 1 ≤ diskLimit ∧ diskLimit ≤ maxBytes

/-- The journal is one that `_load` takes. -/
def Journal.Accepted (store : RunStore) (journal : Journal) : Prop :=
  let value := journal.state
  value.environmentDigest = store.environmentDigest ∧
  value.runs.keys.length ≤ maxRuns ∧
  (∀ scope ∈ value.scope, isDigest scope.scopeDigest) ∧
  (∀ entry ∈ value.runs.entries, entry.2.Accepted entry.1) ∧
  (∀ archive ∈ value.archive, (1 ≤ archive.count ∧ archive.count ≤ maxArchived) ∧
    isDigest archive.digest) ∧
  (∀ name ∈ journal.archived.keys, isIdentifier name) ∧
  journal.archived.keys.length - journal.pending.length = (value.archive.map (·.count)).getD 0 ∧
  ∀ name ∈ journal.pending, ∀ record ∈ value.runs.get? name, record.state.Terminal

instance (store : RunStore) : DecidablePred (Journal.Accepted store) :=
  fun _ => inferInstanceAs (Decidable (_ ∧ _))

structure OwnedRun where
  operationId : String
  requestDigest : String
  /-- The inode that `admit` made, in the process that admitted the run. -/
  directoryIdentity : Option Nat
  finished : Bool

namespace Journal

variable (journal : Journal)

/-- `_archivable_ids`. -/
def archivableIds (runs : Dict String Record) : List String :=
  (runs.entries.filter fun entry => entry.2.state.Terminal ∧ entry.2.reservedBytes = 0 ∧
    journal.directories.get? entry.1 = none).map Prod.fst

/-- `_archived_record`. -/
def archivedRecord (operationId : String) : Except Failure (Option ArchiveDocument) :=
  match journal.archived.get? operationId with
  | none => .ok none
  | some document =>
    if document.Accepted operationId then .ok (some document)
    else .error (.denied "Execution archive rejected")

/-- The archive documents in the order of their names. -/
def sorted (documents : Dict String ArchiveDocument) : List ArchiveDocument :=
  (documents.entries.mergeSort fun a b => a.1 ≤ b.1).map Prod.snd

end Journal

namespace RunStore

variable (store : RunStore)

/-- The journal that the first opening of its root makes. -/
def fresh : Journal :=
  ⟨⟨store.environmentDigest, .empty, none, none⟩, .empty, .empty, .empty⟩

/-- `_load`, without its system calls. -/
def load (journal : Journal) : Except Failure Document :=
  if journal.Accepted store then .ok journal.state
  else .error (.denied "Execution journal rejected")

def status (journal : Journal) (operationId : String) : Except Failure Record := do
  require (isIdentifier operationId) .contract
  let value ← store.load journal
  let archived ← journal.archivedRecord operationId
  match value.runs.get? operationId, archived with
  | none, none => .error (.denied "Unknown execution operation")
  | none, some archived => .ok ⟨archived.requestDigest, archived.state, archived.reservedBytes⟩
  | some record, none => .ok record
  | some record, some archived => do
    require (record.state.Terminal ∧ archived.requestDigest = record.requestDigest ∧
      archived.state = record.state) (.denied "Execution archive mismatch")
    return record

/-- A reading of the journal under the control lock, or the text of its failure. -/
def reading {α : Type} (message : String) (f : Journal → Except Failure α) : Control α := do
  let _ ← call (.denied message)
  let journal ← Prog.read
  .ofExcept (f journal)

/-- `_write`. -/
def write (value : Document) : Control Unit :=
  durable (fun journal => { journal with state := value }) (.denied "Execution journal write failed")

/-- The loop of `_archive_terminal` over the eligible records that have no file yet. -/
def archiveFiles (runs : Dict String Record) : List String → Control Unit
  | [] => return ()
  | operationId :: rest => do
    let journal ← Prog.read
    match journal.archived.get? operationId, runs.get? operationId with
    | none, some record =>
      durable (fun journal => { journal with
        archived := journal.archived.set operationId (record.document operationId) })
        (.denied "Execution archive write failed")
      archiveFiles runs rest
    | _, _ => archiveFiles runs rest

def archiveTerminal (value : Document) : Control Document := do
  let journal ← Prog.read
  let _ ← call (.denied "Execution journal unavailable")
  let eligible := journal.archivableIds value.runs
  if eligible = [] then return value
  else
    let _ ← call (.denied "Execution archive unavailable")
    check (∀ entry ∈ journal.archived.entries, isIdentifier entry.1 ∧ entry.2.Accepted entry.1)
      "Execution archive rejected"
    let official := journal.archived.filterKeys (· ∉ value.runs.keys)
    let expected := store.digest (Journal.sorted official)
    check ((value.archive = none ↔ official.entries = []) ∧ ∀ archive ∈ value.archive,
        archive.count = official.entries.length ∧ archive.digest = expected)
      "Execution archive mismatch"
    check (∀ entry ∈ journal.archived.entries, ∀ record ∈ value.runs.get? entry.1,
        entry.1 ∈ eligible ∧ entry.2.requestDigest = record.requestDigest ∧
        entry.2.state = record.state) "Execution archive mismatch"
    archiveFiles value.runs eligible
    let journal ← Prog.read
    let merged := Journal.sorted journal.archived
    let value := { value with
      archive := some { count := merged.length, digest := store.digest merged }
      runs := value.runs.filterKeys (· ∉ eligible) }
    write value
    return value

/-- The admissions that a crash cut short become quarantined. -/
def quarantineAdmitted (value : Document) : Control Document :=
  if ∃ record ∈ value.runs.values, record.state = .admitted then do
    let value := { value with runs := value.runs.mapValues Record.quarantine }
    write value
    return value
  else return value

def makeRoom (value : Document) : Control Document :=
  if maxRuns ≤ value.runs.keys.length then store.archiveTerminal value else return value

/-- Makes the directory of a run, and answers its inode. -/
def makeDirectory (operationId : String) : Control Nat := do
  let journal ← Prog.read
  Prog.ensure (journal.directories.get? operationId = none) .os
  let identity ← call .os
  durable (fun journal => { journal with
    directories := journal.directories.set operationId ⟨identity, true, []⟩ }) .os
  let _ ← call .os
  return identity

/-- What `admit` does under the control lock.  The Boolean says whether it enters its body: the run
is already recorded when its directory cannot be made. -/
def admitRun (operationId requestDigest : String) (diskBytes : Int) : Control (OwnedRun × Bool) := do
  validate (isIdentifier operationId)
  validate (isDigest requestDigest)
  validate (1 ≤ diskBytes ∧ diskBytes ≤ maxBytes)
  let _ ← call .os
  let value ← reading "Execution journal rejected" store.load
  let value ← quarantineAdmitted value
  let archived ← reading "Execution archive unavailable" fun journal => .ok journal.archived.keys
  check (operationId ∉ value.runs.keys ∧ operationId ∉ archived) "Execution admission refused"
  let value ← store.makeRoom value
  check (value.runs.keys.length < maxRuns ∧ ∀ record ∈ value.runs.values,
    record.state ≠ .quarantined) "Execution admission refused"
  let free ← call .os
  check (value.runs.total (·.reservedBytes) + diskBytes ≤ store.diskLimit ∧ diskBytes ≤ free)
    "Execution disk budget exhausted"
  write { value with runs := value.runs.set operationId ⟨requestDigest, .admitted, diskBytes⟩ }
  Prog.rescue
    (do
      let identity ← makeDirectory operationId
      return (⟨operationId, requestDigest, some identity, false⟩, true))
    fun _ => return (⟨operationId, requestDigest, none, false⟩, false)

def cancel (operationId requestDigest : String) : Control Unit := do
  validate (isIdentifier operationId)
  validate (isDigest requestDigest)
  let record ← reading "Execution journal rejected" (store.status · operationId)
  check (record.requestDigest = requestDigest) "Cancellation binding mismatch"
  if record.state.Terminal then return ()
  else
    let journal ← Prog.read
    match journal.cancellations.get? operationId with
    | some recorded => check (recorded = requestDigest) "Cancellation record rejected"
    | none =>
      durable (fun journal => { journal with
        cancellations := journal.cancellations.set operationId requestDigest }) .os

/-- `_bind_scope`. -/
def bindScope (scope : Scope) : Control Unit := do
  validate (isDigest scope.scopeDigest)
  let value ← reading "Execution journal rejected" store.load
  match value.scope with
  | none =>
    check (∀ record ∈ value.runs.values, record.state.Terminal)
      "Unscoped uncertain work requires explicit recovery"
    write { value with scope := some scope }
  | some previous =>
    check (previous = scope) "Execution journal belongs to another physical scope"

/-- The native owner's stop record in a run directory. -/
def termination (journal : Journal) (operationId : String) : Option Termination := do
  let directory ← journal.directories.get? operationId
  let file ← directory.files.find? fun file => file.name = "termination.json" ∧ file.regular
  file.termination

/-- What `reconcile` does under the control lock: the record, when there is nothing to recover, or
the run to finish.  `machine` is the identity whose lease the calling thread holds. -/
def reconcile (operationId requestDigest : String) (machine : Option String) :
    Control (Record ⊕ OwnedRun) := do
  validate (isIdentifier operationId)
  validate (isDigest requestDigest)
  let record ← reading "Execution journal rejected" (store.status · operationId)
  check (record.requestDigest = requestDigest) "Recovery binding mismatch"
  if record.state.Terminal then return .inl record
  else
    let value ← reading "Execution journal rejected" store.load
    match value.scope with
    | none => .raise (.denied "VM termination cannot recover this execution scope")
    | some scope =>
      check (scope.kind = .vm) "VM termination cannot recover this execution scope"
      check (machine = some scope.scopeDigest) "VM recovery requires current machine ownership"
      let proof ← reading "Native termination recovery unavailable" fun journal =>
        .ok (termination journal operationId)
      check (proof = some ⟨operationId, requestDigest, true⟩)
        "Native termination recovery unavailable"
      return .inr ⟨operationId, requestDigest, none, false⟩

end RunStore

namespace OwnedRun

variable (store : RunStore) (run : OwnedRun)

/-- A cancellation record that cannot be read counts as one. -/
def cancelled : Control Bool :=
  Prog.rescue
    (do
      let _ ← call .os
      let journal ← Prog.read
      return (journal.cancellations.get? run.operationId).isSome)
    fun _ => return true

def unlinkFiles : List String → Control Unit
  | [] => return ()
  | name :: names => do
    durable (fun journal =>
      match journal.directories.get? run.operationId with
      | none => journal
      | some directory => { journal with
          directories := journal.directories.set run.operationId
            { directory with files := directory.files.filter (·.name ≠ name) } }) .os
    unlinkFiles names

/-- The cleanup of `finish`: every file of the directory, then the directory. -/
def removeDirectory : Control Unit := do
  let _ ← call .os
  let journal ← Prog.read
  match journal.directories.get? run.operationId with
  | none => .raise .os
  | some directory =>
    Prog.ensure (directory.isPrivate ∧
      (run.directoryIdentity = none ∨ run.directoryIdentity = some directory.identity)) .os
    Prog.ensure (∀ file ∈ directory.files, file.name ∈ ownedOverlayFiles ∧ file.regular) .os
    unlinkFiles run (directory.files.map (·.name))
    let _ ← call .os
    durable (fun journal => { journal with
      directories := journal.directories.erase run.operationId }) .os
    let _ ← call .os

/-- Whether `finish` has removed the directory. -/
def cleanup (stopped : Bool) : Control Bool :=
  if stopped then
    Prog.rescue
      (do
        removeDirectory run
        return true)
      fun _ => return false
  else return false

/-- The record that `finish` writes. -/
def conclude (outcome : RunState) (cleaned : Bool) (record : Record) : Control Record :=
  if cleaned then do
    let cancelled ← cancelled run
    return { record with state := if cancelled then .cancelled else outcome, reservedBytes := 0 }
  else return { record with state := .quarantined }

def finish (outcome : RunState) (stopped : Bool) : Control OwnedRun := do
  check (run.finished = false) "Execution already finalized"
  check outcome.Terminal "Invalid execution outcome"
  let value ← RunStore.reading "Execution journal rejected" store.load
  match value.runs.get? run.operationId with
  | none => .raise .key
  | some record =>
    let cleaned ← cleanup run stopped
    let record ← conclude run outcome cleaned record
    RunStore.write { value with runs := value.runs.set run.operationId record }
    return { run with finished := true }

end OwnedRun

end Reproof.Execution

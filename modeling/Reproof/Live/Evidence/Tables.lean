import Reproof.Contracts.Versions
import Reproof.Library.Checked
import Reproof.Library.Dict

/-! The tables of `evidence_store.py` and its transactions on them.  The column `relative_path` always
is the path that belongs to the key of its row, and is left out. -/

namespace Reproof.Live.Evidence

open Contracts Library

abbrev Bytes := List UInt8

/-- `OBJECT_METADATA_BYTES`. -/
def objectMetadataBytes : Int := 8 * 1024

/-- `MAX_PINS_PER_OBJECT`. -/
def maxPinsPerObject : Nat := 8

/-- `_RETENTION`. -/
inductive RetentionClass
  | original | intermediate | derivative | exported

namespace RetentionClass

def named : String → Option RetentionClass
  | "original" => some original
  | "intermediate" => some intermediate
  | "derivative" => some derivative
  | "export" => some exported
  | _ => none

/-- `_RETENTION_PRIORITY`. -/
def priority : RetentionClass → Nat
  | derivative => 0
  | intermediate => 1
  | exported => 2
  | original => 3

/-- The class that is kept of two. -/
def retained (a b : RetentionClass) : RetentionClass := if a.priority < b.priority then b else a

end RetentionClass

/-- `_PIN_PURPOSES`. -/
inductive Purpose
  | recording | replay | exported | finalizer
  deriving DecidableEq

def Purpose.named : String → Option Purpose
  | "recording" => some recording
  | "replay" => some replay
  | "export" => some exported
  | "finalizer" => some finalizer
  | _ => none

inductive ObjectState
  | published | tombstoned
  deriving DecidableEq

structure ObjectRow where
  size : Int
  retentionClass : RetentionClass
  retainUntilMs : Int
  reservationId : String
  state : ObjectState

structure StagingRow where
  digest : String
  size : Int
  owner : String
  retentionClass : RetentionClass
  retainUntilMs : Int
  reservationId : String

/-- `objects` and `tombstones` by digest, `staging` by staging identity, `pins` by digest and
identity. -/
structure Tables where
  objects : Dict String ObjectRow
  tombstones : Dict String String
  staging : Dict String StagingRow
  pins : Dict (String × String) Purpose

namespace Tables

def empty : Tables := ⟨.empty, .empty, .empty, .empty⟩

variable (t : Tables) (digest : String)

def object : Option ObjectRow := t.objects.get? digest

def staged (stagingId : String) : Option StagingRow := t.staging.get? stagingId

def Tombstoned : Prop := digest ∈ t.tombstones.keys

/-- The row of a published object. -/
def published : Option ObjectRow :=
  (t.object digest).filter fun row => row.state = .published

def Pinned : Prop := ∃ key ∈ t.pins.keys, key.1 = digest

instance : Decidable (t.Tombstoned digest) := inferInstanceAs (Decidable (_ ∈ _))

instance : Decidable (t.Pinned digest) := inferInstanceAs (Decidable (∃ _ ∈ _, _ = _))

/-- The number of digests with an object or a tombstone. -/
def known : Nat := (t.objects.keys ∪ t.tombstones.keys).length

/-- The transaction of `begin_blob`. -/
def insertStaging (maxStaging : Nat) (stagingId : String) (row : StagingRow) :
    Except String Tables := do
  require (¬ t.Tombstoned row.digest) "Evidence digest is tombstoned"
  require (t.staging.keys.length < maxStaging) "Evidence staging limit reached"
  require (t.staged stagingId = none) "UNIQUE constraint failed: staging.staging_id"
  return { t with staging := t.staging.set stagingId row }

/-- `DELETE FROM staging`. -/
def deleteStaging (stagingIds : List String) : Tables :=
  { t with staging := t.staging.filterKeys (· ∉ stagingIds) }

/-- A new object, in place of its staging row. -/
def insertObject (stagingId : String) (row : ObjectRow) : Tables :=
  { t with objects := t.objects.set digest row, staging := t.staging.erase stagingId }

/-- `DELETE FROM objects WHERE digest = ? AND state = 'tombstoned'`. -/
def deleteTombstoned : Tables :=
  match t.object digest with
  | some row => if row.state = .tombstoned then { t with objects := t.objects.erase digest } else t
  | none => t

/-- The transaction of `pin`. -/
def pin (pinId : String) (purpose : Purpose) : Except String Tables := do
  require ((t.published digest).isSome) "Evidence object is unavailable"
  require (¬ t.Tombstoned digest) "Evidence digest is tombstoned"
  match t.pins.get? (digest, pinId) with
  | some existing =>
    require (existing = purpose) "Evidence pin identity conflict"
    return t
  | none =>
    require ((t.pins.keys.filter fun key => key.1 = digest).length < maxPinsPerObject)
      "Evidence consumer pin limit reached"
    return { t with pins := t.pins.set (digest, pinId) purpose }

/-- The transaction of `unpin`. -/
def unpin (pinId : String) : Tables := { t with pins := t.pins.erase (digest, pinId) }

/-- The transaction of `unpin_id`. -/
def unpinId (pinId : String) : Tables := { t with pins := t.pins.filterKeys fun key => key.2 ≠ pinId }

/-- The transaction of `tombstone`: the reservation of the object, and the staging rows. -/
def tombstone (maxObjects : Nat) (reason : String) :
    Except String (Tables × Option String × List String) := do
  require (¬ t.Pinned digest) "Pinned evidence cannot be tombstoned"
  let stagingIds := (t.staging.entries.filter fun e => e.2.digest = digest).map Prod.fst
  require (t.Tombstoned digest ∨ (t.object digest).isSome ∨ stagingIds ≠ [] ∨ t.known < maxObjects)
    "Evidence tombstone limit reached"
  let tombstones :=
    if t.Tombstoned digest then t.tombstones else t.tombstones.set digest reason
  match t.object digest with
  | some row =>
    return ({ t with tombstones, objects := t.objects.set digest { row with state := .tombstoned } },
      some row.reservationId, stagingIds)
  | none => return ({ t with tombstones }, none, stagingIds)

/-- At most so many, if there is a limit. -/
def limited (limit : Option Nat) (digests : List String) : List String :=
  match limit with
  | some n => digests.take n
  | none => digests

/-- The objects that `apply_retention` takes. -/
def expired (nowMs : Int) (limit : Option Nat) : List String :=
  limited limit (((t.objects.entries.filter fun e => e.2.state = .published ∧
    e.2.retainUntilMs ≤ nowMs ∧ ¬ t.Pinned e.1).map Prod.fst).mergeSort (· ≤ ·))

/-- The digests of the staging rows that `apply_retention` takes. -/
def expiredStaging (nowMs : Int) (limit : Option Nat) : List String :=
  limited limit ((((t.staging.entries.filter fun e => e.2.retainUntilMs ≤ nowMs).map
    fun e => e.2.digest).dedup).mergeSort (· ≤ ·))

end Tables

end Reproof.Live.Evidence

import Reproof.Contracts.Versions
import Reproof.Library.Checked
import Reproof.Library.Table

/-! `DiskBudget` of `disk_budget.py`: the reservations of one root, which all its processes share.
Each operation is one transaction, so what fails leaves the database as it was. -/

namespace Reproof.Live.Storage

open Contracts Library

/-- `MAX_BYTES`. -/
def maxBytes : Int := 10 * 1024 * 1024 * 1024

/-- `MAX_RESERVATIONS`. -/
def maxReservations : Int := 100000

inductive Category
  | journal | spool | encoding | finalization | transfer
  deriving DecidableEq

/-- `_CATEGORIES`. -/
def Category.named : String → Option Category
  | "journal" => some journal
  | "spool" => some spool
  | "encoding" => some encoding
  | "finalization" => some finalization
  | "transfer" => some transfer
  | _ => none

inductive ReservationState
  | active | committed
  deriving DecidableEq

structure Reservation where
  reservationId : String
  owner : String
  category : Category
  reservedBytes : Int
  chargedBytes : Int
  state : ReservationState

instance : Schema Reservation where
  Clash a b := a.reservationId = b.reservationId
  Check _ := True
  symm := Eq.symm
  decClash _ _ := inferInstanceAs (Decidable (_ = _))
  decCheck _ := inferInstanceAs (Decidable True)

/-- `_integer`. -/
def integer (value : Int) (name : String) (low high : Int) : Except String Int := do
  require (low ≤ value ∧ value ≤ high) ("Invalid " ++ name)
  return value

/-- `_metadata_headroom`. -/
def metadataHeadroom (capacity : Int) : Int :=
  if capacity ≥ 1024 * 1024 then max (512 * 1024) (capacity / 8) else max 1 (capacity / 16)

/-- The table `metadata`, which is written as a whole. -/
structure Metadata where
  formatVersion : Int
  capacityBytes : Int
  journalHeadroomBytes : Int
  metadataHeadroomBytes : Int
  maxReservations : Int
  deriving DecidableEq

structure Database where
  metadata : Option Metadata
  reservations : Table Reservation

/-- An open `DiskBudget`. -/
structure DiskBudget where
  capacityBytes : Int
  journalHeadroomBytes : Int
  maxReservations : Int
  capacityBounded : 1 ≤ capacityBytes ∧ capacityBytes ≤ maxBytes
  journalBounded : 1 ≤ journalHeadroomBytes ∧ journalHeadroomBytes ≤ capacityBytes
  reservationsBounded : 1 ≤ maxReservations ∧ maxReservations ≤ Storage.maxReservations

namespace DiskBudget

variable (budget : DiskBudget)

def metadataHeadroomBytes : Int := metadataHeadroom budget.capacityBytes

/-- What the checks of `__init__` leave of its arguments. -/
def checked (capacityBytes journalHeadroomBytes maxReservations : Int) : Except String DiskBudget :=
  if capacity : 1 ≤ capacityBytes ∧ capacityBytes ≤ maxBytes then
    if journal : 1 ≤ journalHeadroomBytes ∧ journalHeadroomBytes ≤ capacityBytes then
      if reservations : 1 ≤ maxReservations ∧ maxReservations ≤ Storage.maxReservations then
        .ok ⟨capacityBytes, journalHeadroomBytes, maxReservations, capacity, journal, reservations⟩
      else .error "Invalid reservation limit"
    else .error "Invalid journal headroom"
  else .error "Invalid disk capacity"

/-- `expected` of `_initialize`. -/
def expected : Metadata :=
  ⟨1, budget.capacityBytes, budget.journalHeadroomBytes, budget.metadataHeadroomBytes,
    budget.maxReservations⟩

/-- `_actual_free`; there is no value when the file system does not answer. -/
def actualFree (free : Option Int) : Except String Int := do
  let value ← orFail free "Storage availability is unknown"
  integer value "available storage" 0 (2 ^ 63 - 1)

end DiskBudget

/-- The sum of `charged_bytes` over some rows. -/
def charged (rows : List Reservation) : Int := (rows.map (·.chargedBytes)).sum

namespace Database

variable (db : Database)

def total : Int := charged db.reservations.rows

/-- The sum over the rows of the categories other than `journal`. -/
def media : Int := charged (db.reservations.select fun row => row.category ≠ .journal)

def active : Int := charged (db.reservations.select fun row => row.state = .active)

end Database

namespace DiskBudget

variable (budget : DiskBudget) (db : Database)

/-- The row checks of a growth. -/
def Intact (oldCapacity : Int) (row : Reservation) : Prop :=
  0 < row.chargedBytes ∧ row.chargedBytes ≤ row.reservedBytes ∧ row.reservedBytes ≤ oldCapacity

instance (oldCapacity : Int) : DecidablePred (Intact oldCapacity) := fun _ =>
  inferInstanceAs (Decidable (_ ∧ _))

/-- `_initialize`. -/
def initializeRoot (allowCapacityGrowth : Bool) (free : Option Int) : Except String Database :=
  match db.metadata with
  | none => return { db with metadata := some budget.expected }
  | some existing => do
    if existing = budget.expected then return db
    else
      require (allowCapacityGrowth ∧ existing.formatVersion = 1 ∧
        existing.journalHeadroomBytes = budget.journalHeadroomBytes ∧
        existing.maxReservations = budget.maxReservations ∧
        0 < existing.capacityBytes ∧ existing.capacityBytes < budget.capacityBytes ∧
        existing.metadataHeadroomBytes = metadataHeadroom existing.capacityBytes)
        "Disk budget configuration mismatch"
      require (∀ row ∈ db.reservations.rows, Intact existing.capacityBytes row)
        "Disk budget reservation metadata is corrupt"
      let usable := budget.capacityBytes - budget.metadataHeadroomBytes
      require (db.total ≤ usable) "Storage pressure prevents capacity growth"
      let actual ← actualFree free
      require (db.active + budget.journalHeadroomBytes + budget.metadataHeadroomBytes ≤ actual)
        "Storage pressure prevents capacity growth"
      return { db with metadata := some { existing with
        capacityBytes := budget.capacityBytes
        metadataHeadroomBytes := budget.metadataHeadroomBytes } }

/-- `reserve`.  `uuid` is the new `uuid4`, in hexadecimal. -/
def reserve (sha256 : String → String) (owner category : String) (amount : Int)
    (idempotencyKey : Option String) (uuid : String) (free : Option Int) :
    Except String (Database × String) := do
  require (isName owner) "Invalid reservation owner"
  let category ← orFail (Category.named category) "Invalid reservation category"
  let amount ← integer amount "reservation size" 1 budget.capacityBytes
  require (∀ key ∈ idempotencyKey, isName key) "Invalid reservation idempotency key"
  let identifier := "reservation_" ++ (idempotencyKey.map sha256).getD uuid
  match db.reservations.find? fun row => idempotencyKey.isSome ∧ row.reservationId = identifier with
  | some existing =>
    require (existing.owner = owner ∧ existing.category = category ∧
      existing.reservedBytes = amount ∧ existing.chargedBytes = amount)
      "Reservation idempotency conflict"
    return (db, identifier)
  | none =>
    require ((db.reservations.rows.length : Int) < budget.maxReservations)
      "Storage reservation limit reached"
    let usable := budget.capacityBytes - budget.metadataHeadroomBytes
    require (db.total + amount ≤ usable) "Storage capacity exhausted"
    require (category ≠ .journal → db.media + amount ≤ usable - budget.journalHeadroomBytes)
      "Journal headroom is reserved"
    let actual ← actualFree free
    require (db.active + amount + budget.journalHeadroomBytes + budget.metadataHeadroomBytes ≤ actual)
      "Storage pressure prevents reservation"
    let reservations ← orFail
      (db.reservations.insert? ⟨identifier, owner, category, amount, amount, .active⟩)
      "UNIQUE constraint failed: reservations.reservation_id"
    return ({ db with reservations }, identifier)

/-- `commit_id`. -/
def commitId (reservationId : String) (actualBytes : Int) : Except String Database := do
  require (reservationId.startsWith "reservation_") "Invalid storage reservation"
  let actual ← integer actualBytes "committed size" 1 budget.capacityBytes
  let row ← orFail (db.reservations.find? fun row => row.reservationId = reservationId)
    "Storage reservation is unavailable"
  require (actual ≤ row.reservedBytes) "Committed size exceeds reservation"
  if row.state = .committed then
    require (row.chargedBytes = actual) "Committed size changed"
    return db
  else
    let reservations ← orFail
      (db.reservations.update? (fun row => row.reservationId = reservationId)
        fun row => { row with state := .committed, chargedBytes := actual })
      "UNIQUE constraint failed: reservations.reservation_id"
    return { db with reservations }

end DiskBudget

namespace Database

variable (db : Database)

/-- `release_id`. -/
def releaseId (reservationId : String) : Database :=
  { db with reservations := db.reservations.delete fun row => row.reservationId = reservationId }

/-- `release_owner`. -/
def releaseOwner (owner : String) (activeOnly : Bool) : Except String Database := do
  require (isName owner) "Invalid reservation owner"
  return { db with reservations := db.reservations.delete fun row =>
    row.owner = owner ∧ (activeOnly → row.state = .active) }

end Database

/-- The database of a root, and the budgets that have been opened on it. -/
structure Root where
  db : Database
  budgets : List (Option DiskBudget)

inductive Root.Event
  | reopen (capacityBytes journalHeadroomBytes maxReservations : Int) (allowCapacityGrowth : Bool)
      (free : Option Int)
  | close (i : Nat)
  | reserve (i : Nat) (owner category : String) (amount : Int) (idempotencyKey : Option String)
      (uuid : String) (free : Option Int)
  | commitId (i : Nat) (reservationId : String) (actualBytes : Int)
  | releaseId (i : Nat) (reservationId : String)
  | releaseOwner (i : Nat) (owner : String) (activeOnly : Bool)

namespace Root

def start : Root := ⟨⟨none, .empty⟩, []⟩

variable (root : Root)

/-- The budget `i`, as long as it is open. -/
def budget (i : Nat) : Option DiskBudget := (root.budgets[i]?).join

/-- What a transaction makes of the database. -/
def transact (result : Except String Database) : Root :=
  match result with
  | .ok db => { root with db }
  | .error _ => root

def apply (sha256 : String → String) : Event → Root
  | .reopen capacityBytes journalHeadroomBytes maxReservations allowCapacityGrowth free =>
    match DiskBudget.checked capacityBytes journalHeadroomBytes maxReservations with
    | .error _ => root
    | .ok budget =>
      match budget.initializeRoot root.db allowCapacityGrowth free with
      | .error _ => root
      | .ok db => ⟨db, root.budgets ++ [some budget]⟩
  | .close i => { root with budgets := root.budgets.set i none }
  | .reserve i owner category amount idempotencyKey uuid free =>
    match root.budget i with
    | none => root
    | some budget =>
      root.transact ((budget.reserve root.db sha256 owner category amount idempotencyKey uuid
        free).map Prod.fst)
  | .commitId i reservationId actualBytes =>
    match root.budget i with
    | none => root
    | some budget => root.transact (budget.commitId root.db reservationId actualBytes)
  | .releaseId i reservationId =>
    match root.budget i with
    | none => root
    | some _ => { root with db := root.db.releaseId reservationId }
  | .releaseOwner i owner activeOnly =>
    match root.budget i with
    | none => root
    | some _ => root.transact (root.db.releaseOwner owner activeOnly)

def run (sha256 : String → String) (events : List Event) : Root :=
  events.foldl (fun root event => root.apply sha256 event) start

end Root

end Reproof.Live.Storage

import Reproof.Live.Access.Controller

/-! The inventory of enrolled devices of `inventory.py`: its two tables, the reports of the hosts, and
what a scheduler asks.  A call is one transaction. -/

namespace Reproof.Live.Inventory

open Contracts Library
open Access (HostContext)

/-- `LiveError`, `ContractError`, and a statement that breaks a key of the database. -/
inductive InventoryError
  | live (code message : String) (status : Nat)
  | contract (message : String)
  | sqlite
  deriving DecidableEq

def inventoryVersion : Int := 2

inductive DeviceKind
  | android | iosPhysical | iosSimulator
  deriving DecidableEq

/-- A host reports any of `_STATES`, and never `missing`. -/
inductive DeviceState
  | available | reserved | busy | uncertain | quarantined | recovering | repairing | missing
  deriving DecidableEq

/-- The states that only a later ownership clears. -/
def DeviceState.Unclean (state : DeviceState) : Prop :=
  state ∈ [quarantined, uncertain, recovering, repairing]

inductive OwnershipStatus
  | unused | owned | released | expired | quarantined
  deriving DecidableEq

/-- Nobody owns the device. -/
def OwnershipStatus.Free (status : OwnershipStatus) : Prop := status = unused ∨ status = released

/-- An ownership that ended without a release. -/
def OwnershipStatus.Lost (status : OwnershipStatus) : Prop := status = quarantined ∨ status = expired

instance : DecidablePred DeviceState.Unclean := fun _ => inferInstanceAs (Decidable (_ ∈ _))
instance : DecidablePred OwnershipStatus.Free := fun _ => inferInstanceAs (Decidable (_ ∨ _))
instance : DecidablePred OwnershipStatus.Lost := fun _ => inferInstanceAs (Decidable (_ ∨ _))

structure Ownership where
  physicalDigest : String
  authorityRootDigest : String
  generation : Int
  status : OwnershipStatus
  hostIncarnation : String
  helperIncarnation : Option String
  releaseReceiptDigest : Option String
  deriving DecidableEq

/-- An entry of `devices` of an inventory update. -/
structure Report where
  deviceAlias : String
  deviceKind : DeviceKind
  physicalDigest : String
  profileDigest : Option String
  state : DeviceState
  ownership : Option Ownership
  deriving DecidableEq

structure InventoryDocument where
  schemaVersion : Int
  generation : Int
  incarnation : String
  devices : List Report
  deriving DecidableEq

structure DeviceRow where
  physicalDigest : String
  inventoryId : String
  hostId : String
  hostGeneration : Nat
  hostIncarnation : String
  deviceAlias : String
  deviceKind : DeviceKind
  profileDigest : Option String
  state : DeviceState
  lastSequence : Nat
  updatedMs : Int
  ownership : Option Ownership
  authorityRoot : Option String
  ownershipGeneration : Int
  releaseFloor : Int
  held : Bool

structure HostRow where
  hostId : String
  generation : Nat
  incarnation : String
  sequence : Nat
  updatedMs : Int

instance : Schema DeviceRow where
  Clash a b := a.physicalDigest = b.physicalDigest ∨ a.inventoryId = b.inventoryId ∨
    (a.hostId = b.hostId ∧ a.deviceAlias = b.deviceAlias)
  Check _ := True
  symm := by tauto
  decClash _ _ := inferInstanceAs (Decidable (_ ∨ _))
  decCheck _ := inferInstanceAs (Decidable True)

instance : Schema HostRow where
  Clash a b := a.hostId = b.hostId
  Check _ := True
  symm := Eq.symm
  decClash _ _ := inferInstanceAs (Decidable (_ = _))
  decCheck _ := inferInstanceAs (Decidable True)

structure InventoryRegistry where
  devices : Table DeviceRow
  hosts : Table HostRow

/-- An entry of a list of devices. -/
structure Listing where
  inventoryId : String
  deviceAlias : String
  deviceKind : DeviceKind
  profileDigest : Option String
  state : DeviceState

structure Response where
  hostId : String
  generation : Nat
  incarnation : String
  sequence : Nat
  devices : List Listing

structure Binding where
  hostId : String
  generation : Nat
  incarnation : String
  deviceAlias : String
  profileDigest : Option String

/-- `_fail`. -/
def failure (code message : String) (status : Nat := 409) : InventoryError := .live code message status

/-- `_identifier`. -/
def identifier (value label : String) : Except InventoryError Unit :=
  require (isName value) (failure "invalid_argument" ("Invalid inventory " ++ label) 400)

section Documents

variable (canonicalDigest : Ownership → String)

/-- `_ownership`; `canonicalDigest` is the digest of the fields of an ownership but its receipt. -/
def ownership (value : Option Ownership) (physicalDigest : String) : Except InventoryError Unit :=
  match value with
  | none => .ok ()
  | some value => do
    require (value.physicalDigest = physicalDigest ∧ isDigest value.authorityRootDigest ∧
      (0 ≤ value.generation ∧ value.generation < 2 ^ 53) ∧
      (value.generation = 0 ↔ value.status = .unused))
      (failure "invalid_argument" "Invalid inventory ownership" 400)
    identifier value.hostIncarnation "authority incarnation"
    match value.status, value.helperIncarnation with
    | .unused, helper =>
      require (helper = none) (failure "invalid_argument" "Invalid inventory ownership" 400)
    | _, some helper => identifier helper "helper incarnation"
    | _, none => .error (failure "invalid_argument" "Invalid inventory helper incarnation" 400)
    let expected := if value.status = .released then
      some (canonicalDigest { value with releaseReceiptDigest := none }) else none
    require (value.releaseReceiptDigest = expected)
      (failure "invalid_argument" "Invalid inventory release receipt" 400)

/-- The checks of the devices of an update; `earlier` are the ones that passed. -/
def parse (earlier : List Report) : List Report → Except InventoryError Unit
  | [] => .ok ()
  | item :: rest => do
    identifier item.deviceAlias "alias"
    require (isDigest item.physicalDigest ∧ (∀ profile ∈ item.profileDigest, isDigest profile) ∧
      item.state ≠ .missing) (failure "invalid_argument" "Invalid inventory device" 400)
    require (∀ other ∈ earlier, other.deviceAlias ≠ item.deviceAlias ∧
      other.physicalDigest ≠ item.physicalDigest)
      (failure "duplicate_device" "Physical inventory contains a duplicate")
    ownership canonicalDigest item.ownership item.physicalDigest
    parse (item :: earlier) rest

def checkDocument (host : HostContext) (document : InventoryDocument) :
    Except InventoryError Unit := do
  require (document.schemaVersion = inventoryVersion ∧ document.generation = host.generation ∧
    document.incarnation = host.incarnation ∧ document.devices.length ≤ 128)
    (failure "stale_host" "Inventory host identity is stale")
  parse canonicalDigest [] document.devices

end Documents

namespace DeviceRow

/-- What a device shows while it is held. -/
def effective (state : DeviceState) (held : Bool) : DeviceState :=
  if held ∧ state = .available then .uncertain else state

section Reported

variable (row : DeviceRow) (item : Report)

/-- No authority root is known of the device, and it is not held. -/
def Unbound : Prop := row.authorityRoot = none ∧ row.held = false

instance : Decidable row.Unbound := inferInstanceAs (Decidable (_ ∧ _))

/-- The report continues the ownership that is known. -/
def Compatible : Prop := ∃ owned ∈ item.ownership, row.Unbound ∨
  (row.authorityRoot = some owned.authorityRootDigest ∧ row.ownershipGeneration ≤ owned.generation)

instance : Decidable (row.Compatible item) := inferInstanceAs (Decidable (∃ _ ∈ item.ownership, _))

/-- A released ownership that clears what the device was held for. -/
def CanRelease : Prop := row.Compatible item ∧ ∃ owned ∈ item.ownership,
  owned.status = .released ∧ row.releaseFloor ≤ owned.generation

instance : Decidable (row.CanRelease item) := inferInstanceAs (Decidable (_ ∧ _))

def nextRoot : Option String :=
  match item.ownership with
  | some owned => if row.Unbound then some owned.authorityRootDigest else row.authorityRoot
  | none => row.authorityRoot

def nextGeneration : Int :=
  match item.ownership with
  | some owned => if row.Compatible item then owned.generation else row.ownershipGeneration
  | none => row.ownershipGeneration

/-- The hold and the release floor after a report. -/
def nextHold : Bool × Int :=
  let watermark := row.nextGeneration item
  let held := row.held || (item.ownership.isSome && !decide (row.Compatible item))
  let held := if item.state = .available ∧ row.CanRelease item then false else held
  let (held, floor) := if item.state = .available then (held, row.releaseFloor) else
    (true, max row.releaseFloor (watermark + if item.state.Unclean ∨
      ∀ owned ∈ item.ownership, owned.status.Free then 1 else 0))
  match item.ownership with
  | none => (held, floor)
  | some owned => if owned.status.Free then (held, floor) else
      (true, max floor (watermark + if owned.status.Lost then 1 else 0))

/-- The row of a known device after a report. -/
def report (host : HostContext) (sequence : Nat) (now : Int) : DeviceRow :=
  let (held, floor) := row.nextHold item
  { row with
    hostGeneration := host.generation, hostIncarnation := host.incarnation
    profileDigest := item.profileDigest, state := effective item.state held
    lastSequence := sequence, updatedMs := now
    ownership := if row.Compatible item then item.ownership else row.ownership
    authorityRoot := row.nextRoot item, ownershipGeneration := row.nextGeneration item
    releaseFloor := floor, held }

end Reported

/-- The row of a device that is reported for the first time. -/
def enroll (item : Report) (host : HostContext) (sequence : Nat) (now : Int) : DeviceRow :=
  let watermark := (item.ownership.map (·.generation)).getD 0
  let held := decide (item.state ≠ .available ∨ ∃ owned ∈ item.ownership, ¬ owned.status.Free)
  { physicalDigest := item.physicalDigest
    inventoryId := "device_" ++ String.ofList (item.physicalDigest.toList.take 24)
    hostId := host.hostId, hostGeneration := host.generation, hostIncarnation := host.incarnation
    deviceAlias := item.deviceAlias, deviceKind := item.deviceKind
    profileDigest := item.profileDigest, state := effective item.state held
    lastSequence := sequence, updatedMs := now, ownership := item.ownership
    authorityRoot := item.ownership.map (·.authorityRootDigest), ownershipGeneration := watermark
    releaseFloor := watermark + if held ∧ (item.state.Unclean ∨ ∀ owned ∈ item.ownership,
      owned.status.Free ∨ owned.status.Lost) then 1 else 0
    held }

/-- A device of a host that was replaced, unless nobody ever owned it. -/
def Swept (host : HostContext) (row : DeviceRow) : Prop :=
  row.hostId = host.hostId ∧
    (row.held = true ∨ 0 < row.ownershipGeneration ∨ row.authorityRoot = none)

instance (host : HostContext) : DecidablePred (Swept host) :=
  fun _ => inferInstanceAs (Decidable (_ ∧ _))

def sweep (now : Int) (row : DeviceRow) : DeviceRow :=
  { row with state := .uncertain, held := true, updatedMs := now }

/-- A device that an update of its host no longer has. -/
def Absent (host : HostContext) (sequence : Nat) (row : DeviceRow) : Prop :=
  row.hostId = host.hostId ∧ row.hostGeneration = host.generation ∧
    row.hostIncarnation = host.incarnation ∧ row.lastSequence < sequence

instance (host : HostContext) (sequence : Nat) : DecidablePred (Absent host sequence) :=
  fun _ => inferInstanceAs (Decidable (_ ∧ _))

def lose (now : Int) (row : DeviceRow) : DeviceRow :=
  { row with state := if row.held then .uncertain else .missing, updatedMs := now }

end DeviceRow

namespace InventoryRegistry

def empty : InventoryRegistry := ⟨.empty, .empty⟩

section Refresh

variable (host : HostContext) (sequence : Nat) (now : Int)

/-- One device of an update; the Boolean says whether it needs reconciliation. -/
def refreshDevice (devices : Table DeviceRow) (item : Report) :
    Except InventoryError (Table DeviceRow × Bool) :=
  match devices.select fun row => row.physicalDigest = item.physicalDigest ∨
    (row.hostId = host.hostId ∧ row.deviceAlias = item.deviceAlias) with
  | [] => do
    let devices ← orFail (devices.insert? (.enroll item host sequence now)) .sqlite
    return (devices, false)
  | [row] => do
    require (row.physicalDigest = item.physicalDigest)
      (failure "duplicate_device" "Inventory alias identifies another device")
    require (row.hostId = host.hostId)
      (failure "duplicate_device" "Physical device is registered by another host")
    require (row.deviceAlias = item.deviceAlias)
      (failure "duplicate_device" "Physical device alias changed")
    let next := row.report item host sequence now
    let devices ← orFail
      (devices.update? (·.physicalDigest = item.physicalDigest) fun _ => next) .sqlite
    return (devices, decide (next.held = true ∧ item.state = .available))
  | _ => .error (failure "duplicate_device" "Inventory alias identifies another device")

def refreshDevices (devices : Table DeviceRow) :
    List Report → Except InventoryError (Table DeviceRow × Bool)
  | [] => .ok (devices, false)
  | item :: rest => do
    let (devices, required) ← refreshDevice host sequence now devices item
    let (devices, others) ← refreshDevices devices rest
    return (devices, required || others)

end Refresh

variable (registry : InventoryRegistry)

/-- The host came back as another generation or incarnation. -/
def Replaced (host : HostContext) : Prop := ∃ prior ∈ registry.hosts.find? (·.hostId = host.hostId),
  (prior.generation, prior.incarnation) ≠ (host.generation, host.incarnation)

instance (host : HostContext) : Decidable (registry.Replaced host) :=
  inferInstanceAs (Decidable (∃ _ ∈ registry.hosts.find? _, _))

def nextSequence (host : HostContext) : Nat :=
  match registry.hosts.find? (·.hostId = host.hostId) with
  | none => 1
  | some prior => prior.sequence + 1

/-- `INSERT INTO hosts ... ON CONFLICT(host_id) DO UPDATE`. -/
def upsertHost (row : HostRow) : Option (Table HostRow) :=
  match registry.hosts.find? (·.hostId = row.hostId) with
  | none => registry.hosts.insert? row
  | some _ => registry.hosts.update? (·.hostId = row.hostId) fun _ => row

/-- What is left of the inventory of a host that came back as another one. -/
def sweepHost (host : HostContext) (now : Int) : Except InventoryError (Table DeviceRow) :=
  if registry.Replaced host then
    orFail (registry.devices.update? (DeviceRow.Swept host) (DeviceRow.sweep now)) .sqlite
  else .ok registry.devices

/-- The transaction of `refresh`. -/
def transaction (host : HostContext) (document : InventoryDocument) (now : Int) :
    Except InventoryError (InventoryRegistry × Bool) := do
  let devices ← registry.sweepHost host now
  let sequence := registry.nextSequence host
  let (devices, required) ← refreshDevices host sequence now devices document.devices
  let devices ← orFail
    (devices.update? (DeviceRow.Absent host sequence) (DeviceRow.lose now)) .sqlite
  let hosts ← orFail
    (registry.upsertHost ⟨host.hostId, host.generation, host.incarnation, sequence, now⟩) .sqlite
  return (⟨devices, hosts⟩, required)

/-- `list_host`. -/
def listHost (hostId : String) : List Listing :=
  ((registry.devices.select (·.hostId = hostId)).mergeSort
    fun a b => a.deviceAlias ≤ b.deviceAlias).map fun row =>
      ⟨row.inventoryId, row.deviceAlias, row.deviceKind, row.profileDigest, row.state⟩

/-- What `refresh` commits, if it does. -/
def committed (canonicalDigest : Ownership → String) (host : HostContext)
    (document : InventoryDocument) (now : Int) : Except InventoryError (InventoryRegistry × Bool) := do
  checkDocument canonicalDigest host document
  require (0 ≤ now) (.contract "Invalid inventory clock")
  registry.transaction host document now

/-- The registry that `refresh` leaves, and its answer.  A device that needs reconciliation is
refused once the update is committed. -/
def refresh (canonicalDigest : Ownership → String) (host : HostContext)
    (document : InventoryDocument) (now : Int) :
    InventoryRegistry × Except InventoryError Response :=
  match registry.committed canonicalDigest host document now with
  | .error e => (registry, .error e)
  | .ok (next, true) => (next, .error (failure "device_reconciliation_required"
      "Physical device requires authority reconciliation"))
  | .ok (next, false) => (next, .ok ⟨host.hostId, host.generation, host.incarnation,
      registry.nextSequence host, next.listHost host.hostId⟩)

/-- `require_available`: the inventory identity of the device. -/
def requireAvailable (binding : Binding) (now : Int) (maxAgeMs : Int := 15000) :
    Except InventoryError String := do
  let unavailable := failure "inventory_unavailable"
    "Enrolled device needs a current ownership report"
  let row ← orFail (registry.devices.find? fun row =>
    row.hostId = binding.hostId ∧ row.deviceAlias = binding.deviceAlias) unavailable
  require (row.state = .available ∧ row.held = false ∧ row.hostGeneration = binding.generation ∧
    row.hostIncarnation = binding.incarnation ∧ row.profileDigest = binding.profileDigest)
    unavailable
  let owned ← orFail row.ownership unavailable
  require (0 ≤ now - row.updatedMs ∧ now - row.updatedMs ≤ maxAgeMs) unavailable
  require owned.status.Free
    (failure "inventory_unavailable" "Enrolled device ownership is unresolved")
  return row.inventoryId

end InventoryRegistry

end Reproof.Live.Inventory

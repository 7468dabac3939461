import Reproof.Live.Inventory.Registry

/-! What one update does to the row of each device. -/

namespace Reproof.Live.Inventory

open Library
open Access (HostContext)

/-- The report of a device in an update. -/
def InventoryDocument.find (document : InventoryDocument) (digest : String) : Option Report :=
  document.devices.find? (·.physicalDigest = digest)

@[simp] theorem DeviceRow.report_physicalDigest {row : DeviceRow} {item : Report}
    {host : HostContext} {sequence : Nat} {now : Int} :
    (row.report item host sequence now).physicalDigest = row.physicalDigest := rfl

/-- A report that a device has to be held for. -/
def Report.Bad (item : Report) : Prop :=
  item.state ≠ .available ∨ ∃ owned ∈ item.ownership, ¬ owned.status.Free

/-- A report that only a later generation of the ownership clears. -/
def Report.Strict (item : Report) : Prop :=
  item.state.Unclean ∨ ∃ owned ∈ item.ownership, owned.status.Lost

instance : DecidablePred Report.Bad := fun _ => inferInstanceAs (Decidable (_ ∨ _))
instance : DecidablePred Report.Strict := fun _ => inferInstanceAs (Decidable (_ ∨ _))

theorem DeviceState.Unclean.ne_available {state : DeviceState} (unclean : state.Unclean) :
    state ≠ .available := by
  rintro rfl
  exact absurd unclean (by decide)

theorem OwnershipStatus.Lost.not_free {status : OwnershipStatus} (lost : status.Lost) :
    ¬ status.Free := by
  rcases lost with rfl | rfl <;> decide

namespace DeviceRow

variable {row : DeviceRow} {item : Report} {host : HostContext} {sequence : Nat} {now : Int}

theorem held_nextHold : (row.nextHold item).1 = true ↔ item.Bad ∨
    (¬ row.CanRelease item ∧
      (row.held = true ∨ (item.ownership.isSome = true ∧ ¬ row.Compatible item))) := by
  unfold nextHold Report.Bad
  cases owned : item.ownership with
  | none =>
    by_cases idle : item.state = .available <;> by_cases release : row.CanRelease item <;>
      simp [idle, release]
  | some value =>
    by_cases free : value.status.Free <;> by_cases idle : item.state = .available <;>
      by_cases release : row.CanRelease item <;> simp [idle, release, free]

theorem le_floor : row.releaseFloor ≤ (row.nextHold item).2 := by
  unfold nextHold
  cases owned : item.ownership with
  | none => by_cases idle : item.state = .available <;> simp [idle]
  | some value =>
    by_cases free : value.status.Free <;> by_cases idle : item.state = .available <;>
      simp [idle, free]

/-- What a device is held for takes a later release. -/
theorem floor_of_bad (bad : item.Bad) :
    row.nextGeneration item + (if item.Strict then 1 else 0) ≤ (row.nextHold item).2 := by
  have le_one : (if item.Strict then 1 else 0 : Int) ≤ 1 := by split <;> decide
  unfold nextHold
  cases owned : item.ownership with
  | none =>
    have busy : item.state ≠ .available := by simpa [Report.Bad, owned] using bad
    simp only [busy, if_false, Option.mem_def, reduceCtorEq, false_implies, implies_true, or_true,
      if_true]
    omega
  | some value =>
    by_cases free : value.status.Free
    · have busy : item.state ≠ .available := by simpa [Report.Bad, owned, free] using bad
      simp only [busy, free, if_false, Option.mem_def, Option.some.injEq, forall_eq', or_true, if_true]
      omega
    · by_cases strict : item.Strict
      · by_cases lost : value.status.Lost
        · simp only [free, lost, strict, if_true, if_false]
          omega
        · have unclean : item.state.Unclean := by simpa [Report.Strict, owned, lost] using strict
          simp only [free, lost, strict, unclean, unclean.ne_available, true_or, if_true, if_false]
          omega
      · simp only [free, strict, if_false]
        split <;> omega

end DeviceRow

namespace InventoryRegistry

open DeviceRow (report_physicalDigest)

variable {registry next : InventoryRegistry} {host : HostContext} {document : InventoryDocument}
  {sequence : Nat} {now : Int} {required : Bool} {digest : String}

/-- The row of a device. -/
def device (registry : InventoryRegistry) (digest : String) : Option DeviceRow :=
  registry.devices.find? (·.physicalDigest = digest)

def hostRow (registry : InventoryRegistry) (hostId : String) : Option HostRow :=
  registry.hosts.find? (·.hostId = hostId)

theorem mem_device {devices : Table DeviceRow} {row : DeviceRow} :
    devices.find? (·.physicalDigest = digest) = some row ↔ row ∈ devices ∧ row.physicalDigest = digest :=
  Table.find?_eq_some fun _ _ ha hb => Or.inl (ha.trans hb.symm)

theorem digest_of_device {row : DeviceRow} (found : registry.device digest = some row) :
    row.physicalDigest = digest := (mem_device.mp found).2

/-- A device keeps its host and its alias. -/
def Fits (host : HostContext) (item : Report) (row : DeviceRow) : Prop :=
  row.hostId = host.hostId ∧ row.deviceAlias = item.deviceAlias

/-- The row of a device after its report. -/
def reported (host : HostContext) (sequence : Nat) (now : Int) (item : Report) :
    Option DeviceRow → DeviceRow
  | none => .enroll item host sequence now
  | some row => row.report item host sequence now

theorem refreshDevice_device {devices devices' : Table DeviceRow} {item : Report}
    (done : refreshDevice host sequence now devices item = .ok (devices', required)) :
    (∀ digest, devices'.find? (·.physicalDigest = digest) =
      if digest = item.physicalDigest then
        some (reported host sequence now item (devices.find? (·.physicalDigest = digest)))
      else devices.find? (·.physicalDigest = digest)) ∧
    ∀ row, devices.find? (·.physicalDigest = item.physicalDigest) = some row → Fits host item row := by
  unfold refreshDevice at done
  split at done
  · rename_i empty
    have absent : devices.find? (·.physicalDigest = item.physicalDigest) = none := by
      by_contra present
      obtain ⟨row, found⟩ := Option.ne_none_iff_exists'.mp present
      obtain ⟨mem, same⟩ := mem_device.mp found
      have absent : row ∉ ([] : List DeviceRow) := List.not_mem_nil
      rw [← empty, Table.mem_select] at absent
      exact absent ⟨mem, Or.inl same⟩
    simp only [bind_eq_ok, orFail_eq_ok, pure_eq_ok, Prod.mk.injEq] at done
    obtain ⟨_, inserted, rfl, -⟩ := done
    refine ⟨fun digest => ?_, fun row found => by cases absent.symm.trans found⟩
    rw [Table.find?_insert? inserted]
    by_cases same : digest = item.physicalDigest
    · subst same
      rw [absent, if_pos rfl]
      exact if_pos rfl
    · rw [if_neg same, if_neg fun h => same h.symm, Option.or_none]
  · rename_i row single
    simp only [bind_eq_ok, require_eq_ok, orFail_eq_ok, pure_eq_ok, Prod.mk.injEq] at done
    obtain ⟨-, same, -, own, -, named, _, updated, rfl, -⟩ := done
    have mem := List.mem_singleton_self row
    rw [← single] at mem
    have found : devices.find? (·.physicalDigest = item.physicalDigest) = some row :=
      mem_device.mpr ⟨(Table.mem_select.mp mem).1, same⟩
    refine ⟨fun digest => ?_, fun row' found' => ?_⟩
    · rw [Table.find?_update? updated fun row' same' => by
        rw [report_physicalDigest, same, same']]
      by_cases same : digest = item.physicalDigest
      · subst same
        rw [found, if_pos rfl, Option.map_some, if_pos (mem_device.mp found).2]
        rfl
      · rw [if_neg same]
        cases other : devices.find? (·.physicalDigest = digest) with
        | none => rfl
        | some row' => rw [Option.map_some, if_neg fun h => same ((mem_device.mp other).2.symm.trans h)]
    · cases found.symm.trans found'
      exact ⟨own, named⟩
  · cases done

/-- The row of a device after an update that holds these reports. -/
theorem refreshDevices_device {devices devices' : Table DeviceRow} {items : List Report}
    (done : refreshDevices host sequence now devices items = .ok (devices', required))
    (distinct : (items.map (·.physicalDigest)).Nodup) (digest : String) :
    let row := devices.find? (·.physicalDigest = digest)
    match items.find? (·.physicalDigest = digest) with
    | none => devices'.find? (·.physicalDigest = digest) = row
    | some item => devices'.find? (·.physicalDigest = digest) =
        some (reported host sequence now item row) ∧ ∀ r, row = some r → Fits host item r := by
  induction items generalizing devices required with
  | nil =>
    cases done
    rfl
  | cons item items ih =>
    simp only [refreshDevices, bind_eq_ok, pure_eq_ok, Prod.mk.injEq] at done
    obtain ⟨⟨middle, first⟩, step, ⟨last, others⟩, rest, rfl, -⟩ := done
    obtain ⟨fresh, distinct⟩ := List.nodup_cons.mp distinct
    obtain ⟨moved, fits⟩ := refreshDevice_device step
    have later := ih rest distinct
    by_cases same : item.physicalDigest = digest
    · subst same
      have alone : items.find? (·.physicalDigest = item.physicalDigest) = none := by
        rw [List.find?_eq_none]
        intro other mem named
        exact fresh (List.mem_map.mpr ⟨other, mem, of_decide_eq_true named⟩)
      have first : (item :: items).find? (·.physicalDigest = item.physicalDigest) = some item :=
        List.find?_cons_of_pos (decide_eq_true rfl)
      rw [alone] at later
      rw [first]
      exact ⟨later.trans ((moved _).trans (if_pos rfl)), fits⟩
    · have skipped : (item :: items).find? (·.physicalDigest = digest) =
          items.find? (·.physicalDigest = digest) :=
        List.find?_cons_of_neg fun h => same (of_decide_eq_true h)
      rw [skipped]
      dsimp only at later
      rw [moved digest, if_neg fun h => same h.symm] at later
      exact later

/-- What the replacement of its host does to a row. -/
def sweepIf (registry : InventoryRegistry) (host : HostContext) (now : Int) (row : DeviceRow) :
    DeviceRow := if registry.Replaced host ∧ row.Swept host then row.sweep now else row

/-- What the end of an update does to a row. -/
def loseIf (host : HostContext) (sequence : Nat) (now : Int) (row : DeviceRow) : DeviceRow :=
  if row.Absent host sequence then row.lose now else row

@[simp] theorem sweepIf_physicalDigest {row : DeviceRow} :
    (registry.sweepIf host now row).physicalDigest = row.physicalDigest := by
  unfold sweepIf
  split <;> rfl

@[simp] theorem sweepIf_hostId {row : DeviceRow} :
    (registry.sweepIf host now row).hostId = row.hostId := by
  unfold sweepIf
  split <;> rfl

@[simp] theorem sweepIf_deviceAlias {row : DeviceRow} :
    (registry.sweepIf host now row).deviceAlias = row.deviceAlias := by
  unfold sweepIf
  split <;> rfl

/-- The rows of all devices and hosts after an update. -/
structure Updates (registry : InventoryRegistry) (host : HostContext) (document : InventoryDocument)
    (now : Int) (next : InventoryRegistry) : Prop where
  unreported : ∀ digest, document.find digest = none → next.device digest =
    (registry.device digest).map fun row =>
      loseIf host (registry.nextSequence host) now (registry.sweepIf host now row)
  reported : ∀ digest item, document.find digest = some item →
    next.device digest = some (reported host (registry.nextSequence host) now item
      ((registry.device digest).map (registry.sweepIf host now))) ∧
    ∀ row, registry.device digest = some row → Fits host item row
  hosts : ∀ hostId, next.hostRow hostId = if hostId = host.hostId then
    some ⟨host.hostId, host.generation, host.incarnation, registry.nextSequence host, now⟩
    else registry.hostRow hostId

theorem hostRow_upsertHost {row : HostRow} {hosts : Table HostRow}
    (done : registry.upsertHost row = some hosts) (hostId : String) :
    hosts.find? (·.hostId = hostId) =
      if hostId = row.hostId then some row else registry.hosts.find? (·.hostId = hostId) := by
  unfold upsertHost at done
  split at done
  · rename_i absent
    rw [Table.find?_insert? done]
    by_cases same : hostId = row.hostId
    · subst same
      rw [absent, if_pos rfl]
      rfl
    · rw [if_neg same, if_neg fun h => same h.symm, Option.or_none]
  · rename_i old found
    rw [Table.find?_update? done fun old same => by rw [same]]
    by_cases same : hostId = row.hostId
    · subst same
      rw [found, if_pos rfl, Option.map_some, if_pos (Table.mem_of_find? found).2]
    · rw [if_neg same]
      cases other : registry.hosts.find? (·.hostId = hostId) with
      | none => rfl
      | some old' =>
        rw [Option.map_some, if_neg fun h => same ((Table.mem_of_find? other).2.symm.trans h)]

theorem transaction_updates
    (done : registry.transaction host document now = .ok (next, required))
    (distinct : (document.devices.map (·.physicalDigest)).Nodup) :
    Updates registry host document now next := by
  simp only [transaction, bind_eq_ok, orFail_eq_ok, pure_eq_ok, Prod.mk.injEq] at done
  obtain ⟨swept, sweeps, ⟨middle, required'⟩, reports, last, loses, hosts, upserted, rfl, -⟩ := done
  have first : ∀ digest, swept.find? (·.physicalDigest = digest) =
      (registry.device digest).map (registry.sweepIf host now) := by
    intro digest
    unfold sweepIf device
    unfold sweepHost at sweeps
    split at sweeps
    · rename_i replaced
      rw [Table.find?_update? (orFail_eq_ok.mp sweeps) fun _ _ => Iff.rfl]
      simp only [replaced, true_and]
    · rename_i replaced
      cases sweeps
      simp only [replaced, false_and, if_false, Option.map_id']
  have ended : ∀ digest, last.find? (·.physicalDigest = digest) =
      (middle.find? (·.physicalDigest = digest)).map (loseIf host (registry.nextSequence host) now) :=
    fun digest => Table.find?_update? loses fun _ _ => Iff.rfl
  have moved := refreshDevices_device reports distinct
  refine ⟨fun digest unreported => ?_, fun digest item found => ?_, hostRow_upsertHost upserted⟩
  · have step := moved digest
    rw [show document.devices.find? (·.physicalDigest = digest) = none from unreported] at step
    rw [device, ended, step, first, Option.map_map]
    rfl
  · have step := moved digest
    rw [show document.devices.find? (·.physicalDigest = digest) = some item from found] at step
    obtain ⟨step, fits⟩ := step
    refine ⟨?_, fun row known => ?_⟩
    · rw [device, ended, step, first, Option.map_some]
      refine congrArg some (if_neg fun absent => ?_)
      have same : (InventoryRegistry.reported host (registry.nextSequence host) now item
          ((registry.device digest).map (registry.sweepIf host now))).lastSequence =
          registry.nextSequence host := by
        cases registry.device digest <;> rfl
      exact Nat.lt_irrefl _ (lt_of_eq_of_lt same.symm absent.2.2.2)
    · have fits := fits _ (by rw [first, known]; rfl)
      exact ⟨sweepIf_hostId.symm.trans fits.1, sweepIf_deviceAlias.symm.trans fits.2⟩

end InventoryRegistry

section Documents

variable {canonicalDigest : Ownership → String} {earlier items : List Report}

/-- What the checks of a report say of it. -/
structure Report.Valid (item : Report) : Prop where
  state : item.state ≠ .missing
  generation : ∀ owned ∈ item.ownership, 0 ≤ owned.generation

theorem parse_valid (accepted : parse canonicalDigest earlier items = .ok ()) :
    (items.map (·.physicalDigest)).Nodup ∧ ∀ item ∈ items, item.Valid ∧
      ∀ other ∈ earlier, other.physicalDigest ≠ item.physicalDigest := by
  induction items generalizing earlier with
  | nil => exact ⟨List.nodup_nil, List.forall_mem_nil _⟩
  | cons item items ih =>
    simp only [parse, bind_eq_ok, require_eq_ok] at accepted
    obtain ⟨_, -, _, ⟨-, -, state⟩, _, fresh, _, owned, rest⟩ := accepted
    obtain ⟨distinct, valid⟩ := ih rest
    have generation : ∀ value ∈ item.ownership, 0 ≤ value.generation := by
      intro value mem
      rw [Option.mem_def.mp mem] at owned
      simp only [ownership, bind_eq_ok, require_eq_ok] at owned
      obtain ⟨_, ⟨-, -, bounds, -⟩, -⟩ := owned
      exact bounds.1
    refine ⟨List.nodup_cons.mpr ⟨fun mem => ?_, distinct⟩, List.forall_mem_cons.mpr ⟨?_, ?_⟩⟩
    · obtain ⟨other, mem, same⟩ := List.mem_map.mp mem
      exact (valid other mem).2 item List.mem_cons_self same.symm
    · exact ⟨⟨state, generation⟩, fun other mem => (fresh other mem).2⟩
    · exact fun other mem => ⟨(valid other mem).1, fun before mem' =>
        (valid other mem).2 before (List.mem_cons_of_mem _ mem')⟩

end Documents

namespace InventoryRegistry

variable {canonicalDigest : Ownership → String} {registry next : InventoryRegistry}
  {host : HostContext} {document : InventoryDocument} {now : Int} {required : Bool}

/-- What an update that is committed does. -/
structure Commits (registry : InventoryRegistry) (host : HostContext) (document : InventoryDocument)
    (now : Int) (next : InventoryRegistry) : Prop
    extends Updates registry host document now next where
  valid : ∀ item ∈ document.devices, item.Valid

theorem committed_commits
    (done : registry.committed canonicalDigest host document now = .ok (next, required)) :
    Commits registry host document now next := by
  simp only [committed, checkDocument, bind_eq_ok, require_eq_ok] at done
  obtain ⟨_, ⟨_, -, accepted⟩, _, -, done⟩ := done
  obtain ⟨distinct, valid⟩ := parse_valid accepted
  exact ⟨transaction_updates done distinct, fun item mem => (valid item mem).1⟩

end InventoryRegistry

end Reproof.Live.Inventory

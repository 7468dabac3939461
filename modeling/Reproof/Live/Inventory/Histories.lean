import Mathlib.Data.List.Induction
import Reproof.Live.Inventory.Updates

/-! Any sequence of updates by any hosts: what a scheduler is told, and what clears a device that was
held. -/

namespace Reproof.Live.Inventory

open Library
open Access (HostContext)
open InventoryRegistry

/-- A call of `refresh`. -/
structure Refresh where
  host : HostContext
  document : InventoryDocument
  now : Int
  deriving DecidableEq

section Run

variable (canonicalDigest : Ownership → String)

/-- The update is committed, even when its answer is an error. -/
def Refresh.Committed (e : Refresh) (registry : InventoryRegistry) : Prop :=
  (registry.committed canonicalDigest e.host e.document e.now).toOption.isSome

instance (e : Refresh) : DecidablePred (e.Committed canonicalDigest) :=
  fun _ => inferInstanceAs (Decidable (_ = true))

def InventoryRegistry.apply (registry : InventoryRegistry) (e : Refresh) : InventoryRegistry :=
  (registry.refresh canonicalDigest e.host e.document e.now).1

def run (events : List Refresh) : InventoryRegistry :=
  events.foldl (InventoryRegistry.apply canonicalDigest) .empty

/-- A registry, with the updates that were committed. -/
def logged (past : InventoryRegistry × List Refresh) (e : Refresh) :
    InventoryRegistry × List Refresh :=
  (past.1.apply canonicalDigest e,
    if e.Committed canonicalDigest past.1 then past.2 ++ [e] else past.2)

/-- The updates that are committed. -/
def commits (events : List Refresh) : List Refresh :=
  (events.foldl (logged canonicalDigest) (.empty, [])).2

/-- The last committed update of a host. -/
def lastRefresh (hostId : String) (log : List Refresh) : Option Refresh :=
  (log.filter (·.host.hostId = hostId)).getLast?

end Run

variable {canonicalDigest : Ownership → String} {registry next : InventoryRegistry} {e : Refresh}
  {digest : String} {row : DeviceRow}

theorem apply_cases : (e.Committed canonicalDigest registry ∧
      Commits registry e.host e.document e.now (registry.apply canonicalDigest e)) ∨
    (¬ e.Committed canonicalDigest registry ∧ registry.apply canonicalDigest e = registry) := by
  unfold Refresh.Committed InventoryRegistry.apply refresh
  cases done : registry.committed canonicalDigest e.host e.document e.now with
  | error e => exact .inr ⟨nofun, rfl⟩
  | ok result =>
    obtain ⟨next, required⟩ := result
    have commits := committed_commits done
    cases required <;> exact .inl ⟨rfl, commits⟩

theorem run_snoc {events : List Refresh} :
    run canonicalDigest (events ++ [e]) = (run canonicalDigest events).apply canonicalDigest e := by
  unfold run
  rw [List.foldl_append]
  rfl

theorem commits_snoc {events : List Refresh} : commits canonicalDigest (events ++ [e]) =
    if e.Committed canonicalDigest (run canonicalDigest events) then
      commits canonicalDigest events ++ [e] else commits canonicalDigest events := by
  have along : ∀ events : List Refresh,
      (events.foldl (logged canonicalDigest) (.empty, [])).1 = run canonicalDigest events := by
    intro events
    induction events using List.reverseRecOn with
    | nil => rfl
    | append_singleton events e ih =>
      rw [List.foldl_append, run_snoc, ← ih]
      rfl
  unfold commits
  rw [List.foldl_append, ← along]
  rfl

section Keeps

/-- What no update takes from a device. -/
structure Keeps (row row' : DeviceRow) : Prop where
  hostId : row'.hostId = row.hostId
  deviceAlias : row'.deviceAlias = row.deviceAlias
  inventoryId : row'.inventoryId = row.inventoryId
  root : ∀ root, row.authorityRoot = some root → row'.authorityRoot = some root
  generation : row.ownershipGeneration ≤ row'.ownershipGeneration
  floor : row.releaseFloor ≤ row'.releaseFloor

instance : Std.Refl Keeps := ⟨fun _ => ⟨rfl, rfl, rfl, fun _ => id, Int.le_refl _, Int.le_refl _⟩⟩

instance : IsTrans DeviceRow Keeps := ⟨fun _ _ _ a b => ⟨b.hostId.trans a.hostId,
  b.deviceAlias.trans a.deviceAlias, b.inventoryId.trans a.inventoryId,
  fun root h => b.root root (a.root root h), a.generation.trans b.generation, a.floor.trans b.floor⟩⟩

/-- A device without an authority root has no ownership. -/
def Rooted (row : DeviceRow) : Prop := row.authorityRoot = none → row.ownershipGeneration = 0

theorem sweepIf_keeps {host : HostContext} {now : Int} : Keeps row (registry.sweepIf host now row) := by
  unfold sweepIf
  split
  · exact ⟨rfl, rfl, rfl, fun _ => id, Int.le_refl _, Int.le_refl _⟩
  · exact refl_of Keeps row

theorem loseIf_keeps {host : HostContext} {sequence : Nat} {now : Int} :
    Keeps row (loseIf host sequence now row) := by
  unfold loseIf
  split
  · exact ⟨rfl, rfl, rfl, fun _ => id, Int.le_refl _, Int.le_refl _⟩
  · exact refl_of Keeps row

theorem report_keeps {item : Report} {host : HostContext} {sequence : Nat} {now : Int}
    (rooted : Rooted row) (valid : item.Valid) : Keeps row (row.report item host sequence now) := by
  refine ⟨rfl, rfl, rfl, fun root known => ?_, ?_, DeviceRow.le_floor⟩
  · change row.nextRoot item = some root
    unfold DeviceRow.nextRoot
    split
    · rw [if_neg fun unbound => (by cases unbound.1.symm.trans known), known]
    · exact known
  · change row.ownershipGeneration ≤ row.nextGeneration item
    unfold DeviceRow.nextGeneration
    split
    · rename_i owned here
      split
      · rename_i compatible
        obtain ⟨value, mem, compatible⟩ := compatible
        cases here.symm.trans mem
        rcases compatible with unbound | ⟨-, later⟩
        · rw [rooted unbound.1]
          exact valid.generation owned here
        · exact later
      · exact Int.le_refl _
    · exact Int.le_refl _

theorem report_rooted {item : Report} {host : HostContext} {sequence : Nat} {now : Int}
    (rooted : Rooted row) : Rooted (row.report item host sequence now) := by
  intro rootless
  change row.nextRoot item = none at rootless
  change row.nextGeneration item = 0
  unfold DeviceRow.nextRoot at rootless
  unfold DeviceRow.nextGeneration
  cases here : item.ownership with
  | none =>
    rw [here] at rootless
    exact rooted rootless
  | some owned =>
    rw [here] at rootless
    dsimp only at rootless ⊢
    split at rootless
    · cases rootless
    · rename_i bound
      rw [if_neg, rooted rootless]
      rintro ⟨value, -, unbound | ⟨known, -⟩⟩
      · exact bound unbound
      · cases rootless.symm.trans known

theorem enroll_rooted {item : Report} {host : HostContext} {sequence : Nat} {now : Int} :
    Rooted (DeviceRow.enroll item host sequence now) := by
  intro rootless
  have none : item.ownership = none := Option.map_eq_none_iff.mp rootless
  change (item.ownership.map (·.generation)).getD 0 = 0
  rw [none]
  rfl

theorem sweepIf_rooted {host : HostContext} {now : Int} (rooted : Rooted row) :
    Rooted (registry.sweepIf host now row) := by
  unfold sweepIf
  split
  · exact rooted
  · exact rooted

theorem loseIf_rooted {host : HostContext} {sequence : Nat} {now : Int} (rooted : Rooted row) :
    Rooted (loseIf host sequence now row) := by
  unfold loseIf
  split
  · exact rooted
  · exact rooted

theorem InventoryDocument.mem_of_find {document : InventoryDocument} {item : Report}
    (found : document.find digest = some item) :
    item ∈ document.devices ∧ item.physicalDigest = digest :=
  ⟨List.mem_of_find?_eq_some found, of_decide_eq_true (List.find?_some found :)⟩

/-- A known device after an update. -/
theorem InventoryRegistry.Commits.known (commits : Commits registry e.host e.document e.now next)
    (found : registry.device digest = some row) :
    ∃ row', next.device digest = some row' ∧
      ((e.document.find digest = none ∧ row' = loseIf e.host (registry.nextSequence e.host) e.now
        (registry.sweepIf e.host e.now row)) ∨
      ∃ item, e.document.find digest = some item ∧ Fits e.host item row ∧ item.Valid ∧
        row' = (registry.sweepIf e.host e.now row).report item e.host
          (registry.nextSequence e.host) e.now) := by
  cases reported : e.document.find digest with
  | none => exact ⟨_, (commits.unreported digest reported).trans (by rw [found]; rfl), .inl ⟨rfl, rfl⟩⟩
  | some item =>
    obtain ⟨step, fits⟩ := commits.reported digest item reported
    refine ⟨_, step.trans (by rw [found]; rfl), .inr ⟨item, rfl, fits row found, ?_, rfl⟩⟩
    exact commits.valid item (InventoryDocument.mem_of_find reported).1

/-- A device that an update brings. -/
theorem InventoryRegistry.Commits.new {row' : DeviceRow} (commits : Commits registry e.host e.document e.now next)
    (found : registry.device digest = none) (now : next.device digest = some row') :
    ∃ item, e.document.find digest = some item ∧ item.Valid ∧
      row' = .enroll item e.host (registry.nextSequence e.host) e.now := by
  cases reported : e.document.find digest with
  | none =>
    have step := commits.unreported digest reported
    rw [found] at step
    cases step.symm.trans now
  | some item =>
    have step := (commits.reported digest item reported).1
    rw [found] at step
    cases step.symm.trans now
    exact ⟨item, rfl, commits.valid item (InventoryDocument.mem_of_find reported).1, rfl⟩

theorem InventoryRegistry.Commits.keeps (commits : Commits registry e.host e.document e.now next)
    (found : registry.device digest = some row) (rooted : Rooted row) :
    ∃ row', next.device digest = some row' ∧ Keeps row row' ∧ Rooted row' := by
  obtain ⟨row', now, ⟨-, rfl⟩ | ⟨item, -, -, valid, rfl⟩⟩ := commits.known found
  · exact ⟨_, now, trans_of Keeps sweepIf_keeps loseIf_keeps, loseIf_rooted (sweepIf_rooted rooted)⟩
  · exact ⟨_, now, trans_of Keeps sweepIf_keeps (report_keeps (sweepIf_rooted rooted) valid),
      report_rooted (sweepIf_rooted rooted)⟩

theorem run_rooted {events : List Refresh}
    (found : (run canonicalDigest events).device digest = some row) : Rooted row := by
  induction events using List.reverseRecOn generalizing row with
  | nil => cases found
  | append_singleton events e ih =>
    rw [run_snoc] at found
    rcases @apply_cases canonicalDigest (run canonicalDigest events) e with ⟨-, commits⟩ | ⟨-, same⟩
    · cases known : (run canonicalDigest events).device digest with
      | none =>
        obtain ⟨item, -, -, rfl⟩ := commits.new known found
        exact enroll_rooted
      | some old =>
        obtain ⟨row', now, -, rooted⟩ := commits.keeps known (ih known)
        cases now.symm.trans found
        exact rooted
    · rw [same] at found
      exact ih found

/-- A device keeps its host, its alias and its authority root, and its ownership generation never
decreases. -/
theorem run_keeps {past later : List Refresh}
    (found : (run canonicalDigest past).device digest = some row) :
    ∃ row', (run canonicalDigest (past ++ later)).device digest = some row' ∧ Keeps row row' := by
  induction later using List.reverseRecOn with
  | nil => exact ⟨row, (List.append_nil past).symm ▸ found, refl_of Keeps row⟩
  | append_singleton later e ih =>
    obtain ⟨row', now, keeps⟩ := ih
    rw [← List.append_assoc, run_snoc]
    rcases @apply_cases canonicalDigest (run canonicalDigest (past ++ later)) e with
      ⟨-, commits⟩ | ⟨-, same⟩
    · obtain ⟨row'', next, keeps', -⟩ := commits.keeps now (run_rooted now)
      exact ⟨row'', next, trans_of Keeps keeps keeps'⟩
    · rw [same]
      exact ⟨row', now, keeps⟩

end Keeps

section Holds

/-- A released ownership, of the authority root of the device, that is new enough. -/
def Releases (digest root : String) (floor : Int) (e : Refresh) : Prop :=
  ∃ item owned, e.document.find digest = some item ∧ item.ownership = some owned ∧
    owned.status = .released ∧ owned.authorityRootDigest = root ∧ floor ≤ owned.generation

theorem sweepIf_held {host : HostContext} {now : Int} (held : row.held = true) :
    (registry.sweepIf host now row).held = true := by
  unfold sweepIf
  split
  · rfl
  · exact held

theorem loseIf_held {host : HostContext} {sequence : Nat} {now : Int} :
    (loseIf host sequence now row).held = row.held := by
  unfold loseIf
  split <;> rfl

/-- A held device is cleared by a release only. -/
theorem InventoryRegistry.Commits.held {row' : DeviceRow}
    (commits : Commits registry e.host e.document e.now next)
    (found : registry.device digest = some row) (held : row.held = true)
    (now : next.device digest = some row') :
    row'.held = true ∨ ∃ root, row'.authorityRoot = some root ∧
      Releases digest root row.releaseFloor e := by
  obtain ⟨row'', now', ⟨-, rfl⟩ | ⟨item, reported, -, -, rfl⟩⟩ := commits.known found
  · cases now'.symm.trans now
    exact .inl (loseIf_held.trans (sweepIf_held held))
  · cases now'.symm.trans now
    have before := @sweepIf_held registry row e.host e.now held
    have keeps := @sweepIf_keeps registry row e.host e.now
    revert before keeps
    generalize registry.sweepIf e.host e.now row = swept
    intro before keeps
    by_cases still : (swept.nextHold item).1 = true
    · exact .inl still
    · right
      rw [DeviceRow.held_nextHold] at still
      have release : swept.CanRelease item := by
        by_contra refused
        exact still (.inr ⟨refused, .inl before⟩)
      obtain ⟨⟨owned, here, compatible⟩, ⟨owned', here', released, floor⟩⟩ := release
      cases here.symm.trans here'
      rcases compatible with ⟨-, free⟩ | ⟨root, -⟩
      · cases before.symm.trans free
      · refine ⟨owned.authorityRootDigest, ?_, item, owned, reported, here, released, rfl,
          Int.le_trans keeps.floor floor⟩
        change swept.nextRoot item = some owned.authorityRootDigest
        unfold DeviceRow.nextRoot
        rw [here]
        dsimp only
        rw [if_neg fun unbound => (by cases before.symm.trans unbound.2), root]

/-- A device is held, at what it is held for, after a report that it has to be held for. -/
theorem InventoryRegistry.Commits.bad {row' : DeviceRow} {item : Report}
    (commits : Commits registry e.host e.document e.now next)
    (reported : e.document.find digest = some item) (bad : item.Bad)
    (now : next.device digest = some row') : row'.held = true ∧
      row'.ownershipGeneration + (if item.Strict then 1 else 0) ≤ row'.releaseFloor := by
  cases known : registry.device digest with
  | none =>
    obtain ⟨item', reported', -, rfl⟩ := commits.new known now
    cases reported.symm.trans reported'
    have held : (DeviceRow.enroll item e.host (registry.nextSequence e.host) e.now).held = true :=
      decide_eq_true bad
    refine ⟨held, Int.add_le_add_left ?_ _⟩
    by_cases strict : item.Strict
    · rw [if_pos strict, if_pos]
      refine ⟨held, strict.imp_right ?_⟩
      rintro ⟨owned, here, lost⟩ owned' here'
      cases here.symm.trans here'
      exact .inr lost
    · rw [if_neg strict]
      split <;> decide
  | some row =>
    obtain ⟨row'', now', ⟨unreported, -⟩ | ⟨item', reported', -, -, rfl⟩⟩ := commits.known known
    · cases reported.symm.trans unreported
    · cases reported.symm.trans reported'
      cases now'.symm.trans now
      exact ⟨DeviceRow.held_nextHold.mpr (.inl bad), DeviceRow.floor_of_bad bad⟩

/-- A device that was held is available only after a release that is new enough. -/
theorem run_cleared {past later : List Refresh} {row' : DeviceRow}
    (found : (run canonicalDigest past).device digest = some row) (held : row.held = true)
    (now : (run canonicalDigest (past ++ later)).device digest = some row')
    (free : row'.held = false) : ∃ root middle e rest, row'.authorityRoot = some root ∧
      later = middle ++ e :: rest ∧ e.Committed canonicalDigest (run canonicalDigest (past ++ middle)) ∧
      Releases digest root row.releaseFloor e := by
  induction later generalizing past row with
  | nil =>
    rw [List.append_nil] at now
    cases found.symm.trans now
    cases held.symm.trans free
  | cons e later ih =>
    have split : ∀ events, past ++ e :: events = (past ++ [e]) ++ events := by simp
    rw [split] at now
    obtain ⟨next, found', keeps⟩ := @run_keeps canonicalDigest digest row past [e] found
    have step : next.held = true ∨ e.Committed canonicalDigest (run canonicalDigest past) ∧
        ∃ root, next.authorityRoot = some root ∧ Releases digest root row.releaseFloor e := by
      rcases @apply_cases canonicalDigest (run canonicalDigest past) e with
        ⟨committed, commits⟩ | ⟨-, same⟩
      · rw [← run_snoc] at commits
        exact (commits.held found held found').imp_right fun released => ⟨committed, released⟩
      · rw [run_snoc, same, found] at found'
        cases found'
        exact .inl held
    rcases step with still | ⟨committed, root, known, releases⟩
    · obtain ⟨root, middle, e', rest, known, rfl, committed, item, owned, reported, here, released,
        same, floor⟩ := ih found' still now
      rw [← split] at committed
      exact ⟨root, e :: middle, e', rest, known, rfl, committed, item, owned, reported, here, released,
        same, Int.le_trans keeps.floor floor⟩
    · obtain ⟨last, now', keeps'⟩ := @run_keeps canonicalDigest digest next (past ++ [e]) later found'
      cases now'.symm.trans now
      exact ⟨root, [], e, later, keeps'.root root known, rfl, by simpa using committed, releases⟩

end Holds

section Current

/-- An update reports every device of its host that is free to use: one that it shows as available
has an ownership, and one that another generation or incarnation has shown as available is there. -/
def Refresh.Attends (e : Refresh) (registry : InventoryRegistry) : Prop :=
  ∀ row ∈ registry.devices.rows, row.hostId = e.host.hostId →
    (registry.sweepIf e.host e.now row).held = false → row.ownership.isSome = true →
    (∀ item ∈ e.document.find row.physicalDigest, item.state = .available →
      item.ownership.isSome = true) ∧
    (e.document.find row.physicalDigest = none → row.state = .available →
      row.hostGeneration = e.host.generation ∧ row.hostIncarnation = e.host.incarnation)

instance (e : Refresh) : DecidablePred e.Attends := fun _ => inferInstanceAs (Decidable (∀ _ ∈ _, _))

/-- Every update that is committed attends to the devices of its host. -/
def Attentive (canonicalDigest : Ownership → String) (registry : InventoryRegistry) :
    List Refresh → Prop
  | [] => True
  | e :: events => (e.Committed canonicalDigest registry → e.Attends registry) ∧
      Attentive canonicalDigest (registry.apply canonicalDigest e) events

/-- The update that the row is shown by. -/
structure ReportedBy (row : DeviceRow) (e : Refresh) : Prop where
  generation : e.host.generation = row.hostGeneration
  incarnation : e.host.incarnation = row.hostIncarnation
  now : e.now = row.updatedMs
  item : ∃ item, e.document.find row.physicalDigest = some item ∧
    item.deviceAlias = row.deviceAlias ∧ item.profileDigest = row.profileDigest ∧
    item.state = .available ∧ ∃ owned ∈ item.ownership, owned.status.Free

/-- What is known of the row of a device. -/
structure Listed (registry : InventoryRegistry) (log : List Refresh) (row : DeviceRow) : Prop where
  host : ∃ h, registry.hostRow row.hostId = some h ∧ row.lastSequence ≤ h.sequence
  current : row.state = .available → row.held = false → row.ownership.isSome = true →
    ∃ e, lastRefresh row.hostId log = some e ∧ ReportedBy row e

variable {log : List Refresh}

theorem lastRefresh_snoc {hostId : String} : lastRefresh hostId (log ++ [e]) =
    if e.host.hostId = hostId then some e else lastRefresh hostId log := by
  unfold lastRefresh
  rw [List.filter_append]
  split
  · rename_i same
    rw [List.filter_cons_of_pos (by simpa using same), List.filter_nil, List.getLast?_concat]
  · rename_i other
    rw [List.filter_cons_of_neg (by simpa using other), List.filter_nil, List.append_nil]

theorem lt_nextSequence {host : HostContext} {h : HostRow}
    (found : registry.hostRow host.hostId = some h) : h.sequence < registry.nextSequence host := by
  unfold nextSequence
  unfold hostRow at found
  rw [found]
  exact Nat.lt_succ_self _

/-- A row that is still free to use after an update without its device is as it was. -/
theorem loseIf_eq {host : HostContext} {sequence : Nat} {now : Int}
    (shown : (loseIf host sequence now (registry.sweepIf host now row)).state = .available)
    (free : (loseIf host sequence now (registry.sweepIf host now row)).held = false) :
    ¬ (registry.sweepIf host now row).Absent host sequence ∧
      loseIf host sequence now (registry.sweepIf host now row) = row ∧
      registry.sweepIf host now row = row := by
  have present : ¬ (registry.sweepIf host now row).Absent host sequence := by
    intro absent
    rw [loseIf, if_pos absent] at shown
    unfold DeviceRow.lose at shown
    dsimp only at shown
    split at shown <;> cases shown
  rw [loseIf, if_neg present] at free ⊢
  have unswept : registry.sweepIf host now row = row := by
    unfold sweepIf at free ⊢
    split at free
    · cases free
    · rename_i unswept
      rw [if_neg unswept]
  exact ⟨present, unswept, unswept⟩

theorem reportedBy_of_free {row' : DeviceRow} {item : Report}
    (found : e.document.find row'.physicalDigest = some item) (generation : row'.hostGeneration = e.host.generation)
    (incarnation : row'.hostIncarnation = e.host.incarnation) (now : row'.updatedMs = e.now)
    (named : row'.deviceAlias = item.deviceAlias) (profile : row'.profileDigest = item.profileDigest)
    (good : ¬ item.Bad) (owned : item.ownership.isSome = true) : ReportedBy row' e := by
  obtain ⟨owned, here⟩ := Option.isSome_iff_exists.mp owned
  refine ⟨generation.symm, incarnation.symm, now.symm, item, found, named.symm, profile.symm, ?_,
    owned, here, ?_⟩
  · by_contra busy
    exact good (.inl busy)
  · by_contra taken
    exact good (.inr ⟨owned, here, taken⟩)

theorem InventoryRegistry.Commits.listed {row' : DeviceRow}
    (commits : Commits registry e.host e.document e.now next)
    (listed : ∀ digest row, registry.device digest = some row → Listed registry log row)
    (attends : e.Attends registry) (now : next.device digest = some row') :
    Listed next (log ++ [e]) row' := by
  cases known : registry.device digest with
  | none =>
    obtain ⟨item, reported, -, rfl⟩ := commits.new known now
    rw [← digest_of_device now] at reported
    refine ⟨⟨_, (commits.hosts _).trans (if_pos rfl), Nat.le_refl _⟩, fun _ free owned =>
      ⟨e, lastRefresh_snoc.trans (if_pos rfl), ?_⟩⟩
    exact reportedBy_of_free reported rfl rfl rfl rfl rfl (of_decide_eq_false free) owned
  | some row =>
    obtain ⟨⟨h, kept, seen⟩, current⟩ := listed digest row known
    obtain ⟨row'', now', ⟨unreported, rfl⟩ | ⟨item, reported, fits, -, rfl⟩⟩ := commits.known known
    · cases now'.symm.trans now
      have keeps := trans_of Keeps (@sweepIf_keeps registry row e.host e.now)
        (@loseIf_keeps _ e.host (registry.nextSequence e.host) e.now)
      have sequence : (loseIf e.host (registry.nextSequence e.host) e.now
          (registry.sweepIf e.host e.now row)).lastSequence = row.lastSequence := by
        unfold loseIf sweepIf
        split <;> split <;> rfl
      refine ⟨?_, fun shown free owned => ?_⟩
      · rw [keeps.hostId, sequence]
        by_cases own : row.hostId = e.host.hostId
        · refine ⟨_, (commits.hosts _).trans (if_pos own), Nat.le_of_lt (Nat.lt_of_le_of_lt seen ?_)⟩
          exact lt_nextSequence (own ▸ kept)
        · exact ⟨h, ((commits.hosts _).trans (if_neg own)).trans kept, seen⟩
      · obtain ⟨present, same, swept⟩ := loseIf_eq shown free
        rw [same] at shown free owned ⊢
        obtain ⟨e', last, shows⟩ := current shown free owned
        have apart : row.hostId ≠ e.host.hostId := by
          intro own
          obtain ⟨generation, incarnation⟩ := (attends row (mem_device.mp known).1 own
            (swept.symm ▸ free) owned).2 (digest_of_device known ▸ unreported) shown
          rw [swept] at present
          exact present ⟨own, generation, incarnation,
            Nat.lt_of_le_of_lt seen (lt_nextSequence (own ▸ kept))⟩
        exact ⟨e', (lastRefresh_snoc.trans (if_neg apart.symm)).trans last, shows⟩
    · cases now'.symm.trans now
      have own : (registry.sweepIf e.host e.now row).hostId = e.host.hostId :=
        sweepIf_hostId.trans fits.1
      refine ⟨⟨_, (commits.hosts _).trans (if_pos own), Nat.le_refl _⟩, fun _ free owned =>
        ⟨e, lastRefresh_snoc.trans (if_pos own.symm), ?_⟩⟩
      have unheld := DeviceRow.held_nextHold.not.mp fun held => nomatch free.symm.trans held
      refine reportedBy_of_free ((digest_of_device now).symm ▸ reported) rfl rfl rfl (sweepIf_deviceAlias.trans fits.2) rfl
        (fun bad => unheld (.inl bad)) ?_
      by_contra unowned
      have none : item.ownership = none := by simpa using unowned
      have refused : ∀ row : DeviceRow, ¬ row.Compatible item := by
        rintro _ ⟨owned, here, -⟩
        cases none.symm.trans here
      have idle : (registry.sweepIf e.host e.now row).held = false := by
        by_contra held
        exact unheld (.inr ⟨fun release => refused _ release.1, .inl (by simpa using held)⟩)
      have stale : row.ownership.isSome = true := by
        have kept : (registry.sweepIf e.host e.now row).ownership = row.ownership := by
          unfold sweepIf
          split <;> rfl
        have owned : (if (registry.sweepIf e.host e.now row).Compatible item then item.ownership
          else (registry.sweepIf e.host e.now row).ownership).isSome = true := owned
        rwa [if_neg (refused _), kept] at owned
      have shown : item.state = .available := by
        by_contra busy
        exact unheld (.inl (.inl busy))
      have attended := (attends row (mem_device.mp known).1 fits.1 idle stale).1 item
        (digest_of_device known ▸ reported) shown
      exact unowned attended

theorem attentive_snoc {events : List Refresh} :
    Attentive canonicalDigest registry (events ++ [e]) ↔ Attentive canonicalDigest registry events ∧
      (e.Committed canonicalDigest (events.foldl (apply canonicalDigest) registry) →
        e.Attends (events.foldl (apply canonicalDigest) registry)) := by
  induction events generalizing registry with
  | nil => simp [Attentive]
  | cons first events ih => simp [Attentive, ih, and_assoc]

theorem run_listed {events : List Refresh} (attentive : Attentive canonicalDigest .empty events)
    (found : (run canonicalDigest events).device digest = some row) :
    Listed (run canonicalDigest events) (commits canonicalDigest events) row := by
  induction events using List.reverseRecOn generalizing digest row with
  | nil => cases found
  | append_singleton events e ih =>
    obtain ⟨attentive, attends⟩ := attentive_snoc.mp attentive
    rw [run_snoc] at found ⊢
    rw [commits_snoc]
    rcases @apply_cases canonicalDigest (run canonicalDigest events) e with
      ⟨committed, commits⟩ | ⟨refused, same⟩
    · rw [if_pos committed]
      exact commits.listed (fun _ _ known => ih attentive known) (attends committed) found
    · rw [if_neg refused, same]
      rw [same] at found
      exact ih attentive found

end Current

section Scheduled

/-- The update is of the bound generation and incarnation, not too old, and shows the device as
available with an ownership that nobody has. -/
def Shows (binding : Binding) (now maxAgeMs : Int) (digest : String) (e : Refresh) : Prop :=
  e.host.generation = binding.generation ∧ e.host.incarnation = binding.incarnation ∧
  (0 ≤ now - e.now ∧ now - e.now ≤ maxAgeMs) ∧
  ∃ item, e.document.find digest = some item ∧ item.deviceAlias = binding.deviceAlias ∧
    item.state = .available ∧ ∃ owned ∈ item.ownership, owned.status.Free

/-- Whatever a device had to be held for was followed by the release of a later ownership. -/
def Cleared (canonicalDigest : Ownership → String) (events : List Refresh) (row : DeviceRow) : Prop :=
  ∀ (past : List Refresh) (e : Refresh) (later : List Refresh), events = past ++ e :: later →
    e.Committed canonicalDigest (run canonicalDigest past) →
    ∀ item, e.document.find row.physicalDigest = some item → item.Bad →
    ∀ was, (run canonicalDigest (past ++ [e])).device row.physicalDigest = some was →
    ∃ root middle e' rest, row.authorityRoot = some root ∧ later = middle ++ e' :: rest ∧
      e'.Committed canonicalDigest (run canonicalDigest (past ++ e :: middle)) ∧
      Releases row.physicalDigest root
        (was.ownershipGeneration + if item.Strict then 1 else 0) e'

theorem requireAvailable_eq_ok {binding : Binding} {now maxAgeMs : Int} {id : String}
    (available : registry.requireAvailable binding now maxAgeMs = .ok id) :
    ∃ row, registry.device row.physicalDigest = some row ∧ row.inventoryId = id ∧
      row.hostId = binding.hostId ∧ row.deviceAlias = binding.deviceAlias ∧
      row.state = .available ∧ row.held = false ∧ row.hostGeneration = binding.generation ∧
      row.hostIncarnation = binding.incarnation ∧ row.ownership.isSome = true ∧
      0 ≤ now - row.updatedMs ∧ now - row.updatedMs ≤ maxAgeMs := by
  simp only [requireAvailable, bind_eq_ok, orFail_eq_ok, require_eq_ok, pure_eq_ok] at available
  obtain ⟨row, found, _, ⟨shown, free, generation, incarnation, -⟩, owned, here, _, ⟨young, old⟩, _, -,
    rfl⟩ := available
  obtain ⟨mem, own, named⟩ := Table.mem_of_find? found
  exact ⟨row, mem_device.mpr ⟨mem, rfl⟩, rfl, own, named, shown, free, generation, incarnation,
    here ▸ rfl, young, old⟩

theorem cleared_of_free {events : List Refresh}
    (found : (run canonicalDigest events).device row.physicalDigest = some row)
    (free : row.held = false) : Cleared canonicalDigest events row := by
  rintro past e later rfl committed item reported bad was known
  rcases @apply_cases canonicalDigest (run canonicalDigest past) e with ⟨-, commits⟩ | ⟨refused, -⟩
  · rw [← run_snoc] at commits
    obtain ⟨held, floor⟩ := commits.bad reported bad known
    have split : ∀ events, past ++ e :: events = (past ++ [e]) ++ events := by simp
    rw [split] at found
    obtain ⟨root, middle, e', rest, same, rfl, committed', item', owned, there, here, released, rooted,
      newer⟩ := run_cleared known held found free
    rw [← split] at committed'
    exact ⟨root, middle, e', rest, same, rfl, committed', item', owned, there, here, released, rooted,
      Int.le_trans floor newer⟩
  · exact absurd committed refused

/-- A device is scheduled only on a current report of its own host, once all that it was held for is
released; and it never changes its host, its alias or its authority root, nor goes back in its
ownership generation. -/
theorem registry_scheduled (canonicalDigest : Ownership → String) (events : List Refresh)
    (attentive : Attentive canonicalDigest .empty events) :
    (∀ binding now maxAgeMs id,
      (run canonicalDigest events).requireAvailable binding now maxAgeMs = .ok id →
      ∃ row, (run canonicalDigest events).device row.physicalDigest = some row ∧
        row.inventoryId = id ∧ row.hostId = binding.hostId ∧ row.deviceAlias = binding.deviceAlias ∧
        (∃ e, lastRefresh binding.hostId (commits canonicalDigest events) = some e ∧
          Shows binding now maxAgeMs row.physicalDigest e) ∧
        Cleared canonicalDigest events row) ∧
    ∀ past later, events = past ++ later → ∀ digest row,
      (run canonicalDigest past).device digest = some row →
      ∃ row', (run canonicalDigest events).device digest = some row' ∧ Keeps row row' := by
  refine ⟨fun binding now maxAgeMs id available => ?_, ?_⟩
  · obtain ⟨row, found, same, own, named, shown, free, generation, incarnation, owned, young, old⟩ :=
      requireAvailable_eq_ok available
    obtain ⟨e, last, generation', incarnation', reported, item, there, named', -, state, taken⟩ :=
      (run_listed attentive found).current shown free owned
    rw [own] at last
    rw [← reported] at young old
    exact ⟨row, found, same, own, named, ⟨e, last, generation'.trans generation,
      incarnation'.trans incarnation, ⟨young, old⟩, item, there, named'.trans named, state, taken⟩,
      cleared_of_free found free⟩
  · rintro past later rfl digest row found
    exact run_keeps found

section Example

def zeroDigest : String := String.ofList (List.replicate 64 '0')

def phoneHost : HostContext := ⟨"host_a", 1, "boot_a", "credential", 1, [], []⟩

def unusedPhone : Ownership :=
  ⟨zeroDigest, zeroDigest, 0, .unused, "boot_a", none, none⟩

/-- The host shows its only device as available. -/
def shown (ownership : Option Ownership) (now : Int) : Refresh :=
  ⟨phoneHost, ⟨2, 1, "boot_a", [⟨"phone", .android, zeroDigest, none, .available, ownership⟩]⟩, now⟩

def phoneBinding : Binding := ⟨"host_a", 1, "boot_a", "phone", none⟩

instance decAttentive (canonicalDigest : Ownership → String) :
    (registry : InventoryRegistry) → DecidablePred (Attentive canonicalDigest registry)
  | _, [] => isTrue trivial
  | registry, e :: events =>
    have := decAttentive canonicalDigest (registry.apply canonicalDigest e) events
    inferInstanceAs (Decidable (_ ∧ _))

theorem shown_scheduled :
    let events := [shown (some unusedPhone) 0]
    ∃ row, (run (fun _ => zeroDigest) events).device row.physicalDigest = some row ∧
      row.inventoryId = "device_000000000000000000000000" ∧ row.hostId = "host_a" ∧
      row.deviceAlias = "phone" ∧
      (∃ e, lastRefresh "host_a" (commits (fun _ => zeroDigest) events) = some e ∧
        Shows phoneBinding 1 15000 row.physicalDigest e) ∧
      Cleared (fun _ => zeroDigest) events row :=
  (registry_scheduled (fun _ => zeroDigest) [shown (some unusedPhone) 0] (by decide +kernel)).1
    phoneBinding 1 15000 _ (by decide +kernel)

/-- The last report of the device has no ownership, and the one before it still counts. -/
theorem unowned_scheduled :
    let events := [shown (some unusedPhone) 0, shown none 1]
    (run (fun _ => zeroDigest) events).requireAvailable phoneBinding 1 15000 =
        .ok "device_000000000000000000000000" ∧
      lastRefresh "host_a" (commits (fun _ => zeroDigest) events) = some (shown none 1) ∧
      ∀ digest, ¬ Shows phoneBinding 1 15000 digest (shown none 1) := by
  refine ⟨by decide +kernel, by decide +kernel, ?_⟩
  rintro digest ⟨-, -, -, item, found, -, -, owned, here, -⟩
  obtain ⟨mem, -⟩ := InventoryDocument.mem_of_find found
  rw [List.mem_singleton.mp mem] at here
  cases here

end Example

end Scheduled

end Reproof.Live.Inventory

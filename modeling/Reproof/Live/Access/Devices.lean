import Reproof.Live.Access.Histories

/-! Handovers of a device: what is asked for a change of its target. -/

namespace Reproof.Live.Access

open Contracts Library

namespace Store

variable {store store' : Store} {digest : SanitationReceipt → String} {actor device deviceId : String}
  {projectId trustGroup hostId : Option String} {receipt : Option SanitationReceipt} {now : Int}

/-- What an `assign_device` makes of the row of its device. -/
theorem assignDevice_self (done : store.assignDevice digest actor deviceId projectId trustGroup hostId receipt now = .ok store') :
    (∃ existing, store.assignment? deviceId = some existing ∧ store' = store) ∨
    (∃ existing target accepted, store.assignment? deviceId = some existing ∧ existing.target ≠ target ∧
      receipt = some accepted ∧ accepted.deviceId = deviceId ∧ accepted.previousAssignment = existing.target ∧
      store'.assignment? deviceId = some ⟨deviceId, target, existing.generation + 1, some (digest accepted), now⟩) ∨
    ∃ target, store.assignment? deviceId = none ∧ store'.assignment? deviceId = some ⟨deviceId, target, 1, none, now⟩ := by
  obtain same | ⟨existing, target, accepted, receipts, assignments, found, changed, valid, updated, rfl⟩ |
    ⟨target, assignments, absent, inserted, rfl⟩ := assignDevice_ok done
  · exact .inl same
  · obtain ⟨supplied, device, previous⟩ := sanitation_ok valid
    refine .inr (.inl ⟨existing, target, accepted, found, changed, supplied, device, previous, ?_⟩)
    have here : existing.deviceId = deviceId := (Table.mem_of_find? found).2
    rw [assignment?, Table.find?_update? updated fun _ _ => Iff.rfl]
    rw [assignment?] at found
    rw [found, Option.map_some, if_pos here, here]
  · refine .inr (.inr ⟨target, absent, ?_⟩)
    rw [assignment?, Table.find?_insert? inserted]
    rw [assignment?] at absent
    rw [absent, Option.none_or, if_pos rfl]

/-- An `assign_device` leaves the rows of the other devices. -/
theorem assignDevice_other (done : store.assignDevice digest actor device projectId trustGroup hostId receipt now = .ok store')
    (other : deviceId ≠ device) : store'.assignment? deviceId = store.assignment? deviceId := by
  obtain ⟨-, -, rfl⟩ | ⟨existing, target, accepted, receipts, assignments, -, -, -, updated, rfl⟩ |
    ⟨target, assignments, -, inserted, rfl⟩ := assignDevice_ok done
  · rfl
  · rw [assignment?, Table.find?_update? updated fun _ _ => Iff.rfl, assignment?]
    cases found : store.assignments.find? (·.deviceId = deviceId) with
    | none => rfl
    | some row =>
      have here : row.deviceId = deviceId := (Table.mem_of_find? found).2
      rw [Option.map_some, if_neg fun same => other (here.symm.trans same)]
  · rw [assignment?, Table.find?_insert? inserted, if_neg (Ne.symm other), Option.or_none]
    rfl

end Store

/-- A change of the target of a device: what it leaves, and the receipt that it is admitted on. -/
structure Handover where
  left : Target
  receipt : SanitationReceipt

namespace World

variable (digest : SanitationReceipt → String)

/-- The row of a device. -/
def assignment? (w : World) (deviceId : String) : Option Assignment := w.controller.store.assignment? deviceId

/-- The handover of a device that a call is. -/
def handover? (w : World) (deviceId : String) (event : Event) : Option Handover :=
  match event, w.assignment? deviceId, (w.step digest event).assignment? deviceId with
  | .assignDevice _ device _ _ _ (some receipt) _, some before, some after =>
    if device = deviceId ∧ after.target ≠ before.target then some ⟨before.target, receipt⟩ else none
  | _, _, _ => none

def handovers (w : World) (deviceId : String) : List Event → List Handover
  | [] => []
  | event :: rest => (w.handover? digest deviceId event).toList ++ (w.step digest event).handovers deviceId rest

variable {digest} {w : World} {deviceId : String} {event : Event}

/-- One call keeps the row of a device, hands the device over, or assigns it first. -/
theorem step_assignment (digest : SanitationReceipt → String) (w : World) (deviceId : String) (event : Event) :
    ((w.step digest event).assignment? deviceId = w.assignment? deviceId ∧ w.handover? digest deviceId event = none) ∨
    (∃ before after receipt, w.assignment? deviceId = some before ∧
      (w.step digest event).assignment? deviceId = some after ∧ after.target ≠ before.target ∧
      after.generation = before.generation + 1 ∧ receipt.deviceId = deviceId ∧
      receipt.previousAssignment = before.target ∧
      w.handover? digest deviceId event = some ⟨before.target, receipt⟩) ∨
    ∃ after, w.assignment? deviceId = none ∧ (w.step digest event).assignment? deviceId = some after ∧
      after.generation = 1 ∧ w.handover? digest deviceId event = none := by
  have unchanged (same : (w.step digest event).assignment? deviceId = w.assignment? deviceId) :
      w.handover? digest deviceId event = none := by
    unfold handover?
    rw [same]
    split
    · rename_i before after first second
      rw [first] at second
      cases second
      exact if_neg fun changed => changed.2 rfl
    · rfl
  have kept (same : (w.step digest event).assignment? deviceId = w.assignment? deviceId) := And.intro same (unchanged same)
  cases done : w.apply digest event with
  | error e =>
    have same : w.step digest event = w := by
      rw [step, done]
      rfl
    exact .inl (kept (by rw [same]))
  | ok w' =>
    have next : w.step digest event = w' := by
      rw [step, done]
      rfl
    cases apply_moves done with
    | assigns actor device projectId trustGroup hostId receipt now assigned =>
      by_cases same : deviceId = device
      · subst same
        obtain ⟨_, -, unmoved⟩ | ⟨existing, target, accepted, found, changed, rfl, names, previous, row⟩ |
          ⟨target, absent, row⟩ := Store.assignDevice_self assigned
        · refine .inl (kept ?_)
          rw [next, assignment?, unmoved]
          rfl
        · refine .inr (.inl ⟨existing, _, accepted, found, next ▸ row, Ne.symm changed, rfl, names, previous, ?_⟩)
          have there : w'.assignment? deviceId = _ := row
          have here : w.assignment? deviceId = _ := found
          unfold handover?
          rw [next, there, here]
          exact if_pos ⟨rfl, Ne.symm changed⟩
        · refine .inr (.inr ⟨_, absent, next ▸ row, rfl, ?_⟩)
          have here : w.assignment? deviceId = _ := absent
          unfold handover?
          rw [here]
          cases receipt with
          | none => rfl
          | some receipt => rfl
      · refine .inl (kept ?_)
        rw [next]
        exact Store.assignDevice_other assigned same
    | stays _ same =>
      refine .inl (kept ?_)
      rw [next, assignment?, Store.assignment?, same]
      rfl
    | enrolls actor hostId projectIds trustGroups lifetime credentialLifetime enrollmentId secretDigest now enrolled =>
      obtain ⟨-, _, enrollments, -, -, -, -, -, -, -, -, same⟩ := Store.createHostEnrollment_ok enrolled
      refine .inl (kept ?_)
      rw [next, assignment?, same]
      rfl
    | consumes token hostId incarnation credentialId secretDigest now host new consumed =>
      obtain ⟨_, enrollments, hosts, -, -, -, -, -, -, -, same⟩ := Store.consumeHostEnrollment_ok consumed
      refine .inl (kept ?_)
      rw [next, assignment?, same]
      rfl
    | revokesEnrollment actor enrollmentId now revoked =>
      obtain ⟨enrollments, -, same⟩ := Store.revokeHostEnrollment_ok revoked
      refine .inl (kept ?_)
      rw [next, assignment?, same]
      rfl
    | revokesHost actor hostId now revoked =>
      obtain ⟨hosts, enrollments, -, -, -, same⟩ := Store.revokeHost_ok revoked
      refine .inl (kept ?_)
      rw [next, assignment?, same]
      rfl

/-- Each handover has a receipt of the device for the target that it leaves. -/
theorem handovers_receipt {events : List Event} :
    ∀ handover ∈ w.handovers digest deviceId events,
      handover.receipt.deviceId = deviceId ∧ handover.receipt.previousAssignment = handover.left := by
  induction events generalizing w with
  | nil => exact fun _ mem => nomatch List.not_mem_nil mem
  | cons event rest ih =>
    intro handover mem
    obtain here | later := List.mem_append.mp mem
    · rw [Option.mem_toList] at here
      obtain ⟨-, none⟩ | ⟨before, after, receipt, -, -, -, -, names, previous, made⟩ | ⟨_, -, -, -, none⟩ :=
        step_assignment digest w deviceId event
      · exact nomatch none.symm.trans here
      · obtain rfl := Option.some.inj (made.symm.trans here)
        exact ⟨names, previous⟩
      · exact nomatch none.symm.trans here
    · exact ih handover later

/-- The generation of a device counts the changes of its target, and each change is admitted on a receipt for
the target that it leaves. -/
theorem run_handovers (digest : SanitationReceipt → String) (events : List Event) (seconds : Int) (deviceId : String) :
    let w := (empty seconds).run digest events
    (∀ event, ((w.step digest event).assignment? deviceId = w.assignment? deviceId) ∨
      (∃ before after receipt, w.assignment? deviceId = some before ∧
        (w.step digest event).assignment? deviceId = some after ∧ after.target ≠ before.target ∧
        after.generation = before.generation + 1 ∧ receipt.deviceId = deviceId ∧
        receipt.previousAssignment = before.target ∧
        w.handover? digest deviceId event = some ⟨before.target, receipt⟩) ∨
      ∃ after, w.assignment? deviceId = none ∧ (w.step digest event).assignment? deviceId = some after ∧
        after.generation = 1) ∧
    ((empty seconds).handovers digest deviceId events).Pairwise fun a b => a.left ≠ b.left → a.receipt ≠ b.receipt := by
  refine ⟨fun event => ?_, ?_⟩
  · obtain kept | moved | ⟨after, absent, row, first, -⟩ := step_assignment digest
      ((empty seconds).run digest events) deviceId event
    · exact .inl kept.1
    · exact .inr (.inl moved)
    · exact .inr (.inr ⟨after, absent, row, first⟩)
  · apply List.pairwise_of_forall_mem_list
    intro a ha b hb apart same
    apply apart
    rw [← (handovers_receipt a ha).2, ← (handovers_receipt b hb).2, same]

section Trial

/-- A receipt for leaving a project. -/
def leaving (projectId : String) : SanitationReceipt where
  schemaVersion := 1
  kind := "device-sanitation-receipt"
  deviceId := "phone"
  previousAssignment := ⟨.project projectId, none⟩
  completedAtMs := 1
  limitations := []

def toProject (projectId : String) (receipt : Option SanitationReceipt) (now : Int) : Event :=
  .assignDevice "admin" "phone" (some projectId) none none receipt now

/-- A device that comes back to a project, and leaves it again. -/
def thereAndBack : List Event :=
  [.bootstrapAdministrator "admin" 0, .registerProject "admin" ⟨"shop", "r1", "digest_shop", "team"⟩ 1,
    .registerProject "admin" ⟨"home", "r1", "digest_home", "team"⟩ 2, toProject "shop" none 3,
    toProject "home" (some (leaving "shop")) 4, toProject "shop" (some (leaving "home")) 5,
    toProject "home" (some (leaving "shop")) 6]

/-- The second change away from a project is admitted on the receipt of the first. -/
theorem thereAndBack_receipts :
    ¬ (((empty 3600).handovers (·.kind) "phone" thereAndBack).map (·.receipt)).Nodup := by
  decide +kernel

end Trial

end World

end Reproof.Live.Access

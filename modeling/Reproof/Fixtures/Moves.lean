import Mathlib.Data.List.Induction
import Reproof.Fixtures.Histories

/-! What an event of a fixture store does to its allocations, its operations and its history. -/

namespace Reproof.Fixtures

open Contracts Library

/-- An allocation of which only the state has changed. -/
def Moved (row row' : Allocation) : Prop :=
  row' = { row with state := row'.state, reason := row'.reason, updatedAtMs := row'.updatedAtMs }

theorem Moved.refl (row : Allocation) : Moved row row := rfl

namespace Store

variable {store store' : Store} {allocation : FixtureAllocation} {allocationId : String} {row row' bound : Allocation}
  {state : State} {reason : Option String} {now : Int} {event : Event} {generation : Nat}

theorem allocation?_eq_some :
    store.allocation? allocationId = some row ↔ row ∈ store.allocations ∧ row.allocationId = allocationId :=
  Table.find?_eq_some fun _ _ left right => Or.inr (left.trans right.symm)

theorem operation?_eq_some {operationId : String} {operation : Operation} :
    store.operation? operationId = some operation ↔ operation ∈ store.operations ∧ operation.operationId = operationId :=
  Table.find?_eq_some fun _ _ left right => left.trans right.symm

theorem past?_eq_some {past : Past} :
    store.past? allocationId = some past ↔ past ∈ store.history ∧ past.allocationId = allocationId :=
  Table.find?_eq_some fun _ _ left right => left.trans right.symm

theorem mem_operationsOf {operation : Operation} :
    operation ∈ store.operationsOf allocationId generation ↔
      operation ∈ store.operations ∧ operation.Of allocationId generation :=
  Table.mem_select

theorem allocation_ok (done : store.allocation allocation = .ok bound) :
    bound ∈ store.allocations ∧ bound.allocationId = allocation.allocationId ∧ bound.generation = allocation.generation := by
  simp only [Store.allocation, bind_eq_ok, orFail_eq_ok, require_eq_ok, pure_eq_ok] at done
  obtain ⟨_, found, _, ⟨-, same, -⟩, rfl⟩ := done
  obtain ⟨mem, named⟩ := allocation?_eq_some.mp found
  exact ⟨mem, named, same⟩

theorem eq_bound (done : store.allocation allocation = .ok bound) (mem : row ∈ store.allocations)
    (same : row.allocationId = allocation.allocationId) : row = bound := by
  obtain ⟨mem', named, -⟩ := allocation_ok done
  exact Table.eq_of_clash mem mem' (Or.inr (same.trans named.symm))

theorem mem_of_setState (done : store.setState allocation state reason now = .ok store') (mem : row' ∈ store'.allocations) :
    row' ∈ store.allocations ∨ ∃ row ∈ store.allocations, row.allocationId = allocation.allocationId ∧
      row.generation = allocation.generation ∧ row' = { row with state, reason, updatedAtMs := now } := by
  rw [← Table.mem_rows, (setState_ok done).2.2] at mem
  obtain ⟨row, old, rfl⟩ := List.mem_map.mp mem
  split
  · rename_i same
    exact .inr ⟨row, old, same.1, same.2, rfl⟩
  · exact .inl old

theorem reserve_ok {plan : TrustedFixturePlan} {ownerDigest deviceDigest : String}
    (done : store.reserve plan ownerDigest deviceDigest allocationId now = .ok (store', allocation)) :
    ¬ store.Used allocationId ∧ store'.operations = store.operations ∧
      allocation = ⟨allocationId, plan.fixtureId, allocation.generation, ownerDigest⟩ ∧
      ((allocation.generation = 1 ∧ store.allocations.find? (OfSlot plan) = none ∧ store'.history = store.history ∧
          store'.allocations.rows =
            store.allocations.rows ++ [reservedRow plan ownerDigest deviceDigest allocationId 1 now]) ∨
        ∃ row, store.allocations.find? (OfSlot plan) = some row ∧ row.state = .available ∧
          allocation.generation = row.generation + 1 ∧
          store'.history = (store.history.insert? ⟨row.allocationId, row⟩).getD store.history ∧
          store'.allocations.rows = store.allocations.rows.map fun row' => if OfSlot plan row' then
            reservedRow plan ownerDigest deviceDigest allocationId (row.generation + 1) now else row') := by
  simp only [reserve, bind_eq_ok, require_eq_ok] at done
  obtain ⟨_, -, _, unused, done⟩ := done
  split at done
  · rename_i none
    simp only [bind_eq_ok, orFail_eq_ok, pure_eq_ok, Prod.mk.injEq] at done
    obtain ⟨allocations, inserted, rfl, rfl⟩ := done
    exact ⟨unused, rfl, rfl, .inl ⟨rfl, none, rfl, Table.rows_of_insert? inserted⟩⟩
  · rename_i row found
    simp only [bind_eq_ok, orFail_eq_ok, require_eq_ok, pure_eq_ok, Prod.mk.injEq] at done
    obtain ⟨_, available, _, -, allocations, updated, rfl, rfl⟩ := done
    exact ⟨unused, rfl, rfl, .inr ⟨row, found, available, rfl, rfl, Table.rows_of_update? updated⟩⟩

/-- How the state of an allocation changes. -/
inductive Transition (store : Store) (row : Allocation) : Event → State → Prop
  | quarantined (event : Event) : Transition store row event .quarantined
  | admitted (plan : TrustedFixturePlan) (allocation : FixtureAllocation) (recipeId : String) (kind : Kind)
      (payloadDigest operationId : String) (now : Int)
      (checked : store.checkAdmission row.allocationId row.generation row.state kind = .ok ()) :
      Transition store row (.admitOperation plan allocation recipeId kind payloadDigest operationId now) kind.next
  | settled (allocation : FixtureAllocation) (operationId : String) (remote : FixtureOperationResult) (now : Int)
      (operation : Operation) (same : row.allocationId = allocation.allocationId ∧ row.generation = allocation.generation)
      (found : store.operation? operationId = some operation)
      (of : operation.Of allocation.allocationId allocation.generation)
      (answers : remote.operationId = operationId ∧ remote.generation = allocation.generation ∧
        remote.fence = allocation.generation) :
      Transition store row (.finishRemote allocation operationId remote now)
        (store.settle allocation operation row.state (outcome remote now)).1
  | readied (plan : TrustedFixturePlan) (allocation : FixtureAllocation) (now : Int)
      (prepared : row.state = .prepared ∨ row.state = .checking ∨ row.state = .ready) :
      Transition store row (.markReady plan allocation now) .ready
  | released (allocation : FixtureAllocation) (now : Int)
      (unstarted : store.operationsOf row.allocationId row.generation = []) :
      Transition store row (.recoverUnstarted allocation now) .available

/-- A row after an event: reserved by it, or as it was but for its state. -/
theorem Move.allocations (move : Move store store' event) (mem : row' ∈ store'.allocations) :
    row' ∈ store.allocations ∨
      (∃ row ∈ store.allocations, Moved row row' ∧ store.Transition row event row'.state) ∨
      ∃ plan ownerDigest deviceDigest now, event = .reserve plan ownerDigest deviceDigest row'.allocationId now ∧
        row' = reservedRow plan ownerDigest deviceDigest row'.allocationId row'.generation now := by
  cases move with
  | stays event same =>
    subst same
    exact .inl mem
  | reserves plan ownerDigest deviceDigest allocationId now allocation done =>
    obtain ⟨-, -, -, ⟨-, -, -, rows⟩ | ⟨row, -, -, -, -, rows⟩⟩ := reserve_ok done
    · rw [← Table.mem_rows, rows] at mem
      obtain old | new := List.mem_append.mp mem
      · exact .inl old
      · obtain rfl := List.mem_singleton.mp new
        exact .inr (.inr ⟨plan, ownerDigest, deviceDigest, now, rfl, rfl⟩)
    · rw [← Table.mem_rows, rows] at mem
      obtain ⟨other, old, rfl⟩ := List.mem_map.mp mem
      split
      · exact .inr (.inr ⟨plan, ownerDigest, deviceDigest, now, rfl, rfl⟩)
      · exact .inl old
  | admits plan allocation recipeId kind payloadDigest operationId now bound operations found held new checked inserted done =>
    obtain old | ⟨row, old, same, generation, rfl⟩ := mem_of_setState done mem
    · exact .inl old
    · obtain rfl := eq_bound found old same
      rw [← same, ← generation] at checked
      exact .inr (.inl ⟨row, old, rfl, .admitted _ _ _ _ _ _ _ checked⟩)
  | dispatches allocation operationId restates =>
    rw [restates.allocations.1] at mem
    exact .inl mem
  | quarantines event allocation middle reason now on restates done =>
    obtain old | ⟨row, old, -, -, rfl⟩ := mem_of_setState done mem
    · exact .inl (restates.allocations.1 ▸ old)
    · exact .inr (.inl ⟨row, restates.allocations.1 ▸ old, rfl, .quarantined _⟩)
  | settles allocation operationId remote now bound operation middle found operation? of answers restated done =>
    have unmoved := (setOperation_ok restated).1
    obtain old | ⟨row, old, same, generation, rfl⟩ := mem_of_setState done mem
    · exact .inl (unmoved ▸ old)
    · rw [unmoved] at old
      obtain rfl := eq_bound found old same
      exact .inr (.inl ⟨row, old, rfl, .settled _ _ _ _ operation ⟨same, generation⟩ operation? of answers⟩)
  | readies plan allocation now bound found prepared done =>
    obtain old | ⟨row, old, same, -, rfl⟩ := mem_of_setState done mem
    · exact .inl old
    · obtain rfl := eq_bound found old same
      exact .inr (.inl ⟨row, old, rfl, .readied _ _ _ prepared⟩)
  | seals plan ownerDigest deviceDigest allocationId now past history absent inserted sealed same =>
    subst same
    exact .inl mem
  | releases allocation now bound found unstarted done =>
    obtain old | ⟨row, old, same, generation, rfl⟩ := mem_of_setState done mem
    · exact .inl old
    · rw [← same, ← generation] at unstarted
      exact .inr (.inl ⟨row, old, rfl, .released _ _ unstarted⟩)
  | restarts now done =>
    simp only [recoverUnfinished, bind_eq_ok, orFail_eq_ok, pure_eq_ok] at done
    obtain ⟨operations, -, allocations, updated, rfl⟩ := done
    rw [← Table.mem_rows, Table.rows_of_update? updated] at mem
    obtain ⟨row, old, rfl⟩ := List.mem_map.mp mem
    split
    · exact .inr (.inl ⟨row, old, rfl, .quarantined _⟩)
    · exact .inl old

/-- An operation after an event: admitted by it, or as it was but for its state and its receipt. -/
theorem Move.operations {operation' : Operation} (move : Move store store' event) (mem : operation' ∈ store'.operations) :
    (∃ operation ∈ store.operations, Restated operation operation') ∨
      ∃ plan allocation now, event = .admitOperation plan allocation operation'.recipeId operation'.operation
          operation'.payloadDigest operation'.operationId now ∧
        operation'.Of allocation.allocationId allocation.generation ∧
        store.operation? operation'.operationId = none ∧
        operation'.unsafePrior = store.unsafePrior operation'.allocationId operation'.generation operation'.operation := by
  have unchanged {middle : Store} (same : middle.operations = store.operations) (mem : operation' ∈ middle.operations) :
      ∃ operation ∈ store.operations, Restated operation operation' := ⟨operation', same ▸ mem, rfl⟩
  have restated {allocation : FixtureAllocation} {middle : Store} (restates : store.Restates allocation middle) (mem : operation' ∈ middle.operations) :
      ∃ operation ∈ store.operations, Restated operation operation' := by
    obtain rfl | ⟨operationId, f, keeps, -, done⟩ := restates
    · exact unchanged rfl mem
    · rw [← Table.mem_rows, (setOperation_ok done).2.2] at mem
      obtain ⟨operation, old, rfl⟩ := List.mem_map.mp mem
      refine ⟨operation, old, ?_⟩
      split
      · exact keeps operation
      · rfl
  cases move with
  | stays event same => exact .inl (unchanged (congrArg Store.operations same) mem)
  | reserves plan ownerDigest deviceDigest allocationId now allocation done => exact .inl (unchanged (reserve_ok done).2.1 mem)
  | admits plan allocation recipeId kind payloadDigest operationId now bound operations found held new checked inserted done =>
    rw [(setState_ok done).1] at mem
    obtain old | rfl := (Table.mem_insert? inserted).mp mem
    · exact .inl ⟨operation', old, rfl⟩
    · exact .inr ⟨plan, allocation, now, rfl, ⟨rfl, rfl⟩, new, rfl⟩
  | dispatches allocation operationId restates => exact .inl (restated restates mem)
  | quarantines event allocation middle reason now on restates done =>
    exact .inl (restated restates ((setState_ok done).1 ▸ mem))
  | settles allocation operationId remote now bound operation middle found operation? of answers changed done =>
    have settled : store.Restates allocation middle := .inr ⟨operationId, fun row =>
      { row with
        state := (outcome remote now).1
        completedAtMs := remote.completedAtMs
        retentionExpiresAtMs := remote.retentionExpiresAtMs }, fun _ => rfl, ⟨operation, operation?, of⟩, changed⟩
    exact .inl (restated settled ((setState_ok done).1 ▸ mem))
  | readies plan allocation now bound found prepared done => exact .inl (unchanged (setState_ok done).1 mem)
  | seals plan ownerDigest deviceDigest allocationId now past history absent inserted sealed same =>
    subst same
    exact .inl (unchanged rfl mem)
  | releases allocation now bound found unstarted done => exact .inl (unchanged (setState_ok done).1 mem)
  | restarts now done =>
    simp only [recoverUnfinished, bind_eq_ok, orFail_eq_ok, pure_eq_ok] at done
    obtain ⟨operations, updated, allocations, -, rfl⟩ := done
    rw [← Table.mem_rows, Table.rows_of_update? updated] at mem
    obtain ⟨operation, old, rfl⟩ := List.mem_map.mp mem
    refine .inl ⟨operation, old, ?_⟩
    split
    · rfl
    · rfl

theorem Restates.keeps {middle : Store} {operation : Operation} (restates : store.Restates allocation middle)
    (mem : operation ∈ store.operations) : ∃ operation' ∈ middle.operations, Restated operation operation' := by
  obtain rfl | ⟨operationId, f, keeps, -, done⟩ := restates
  · exact ⟨operation, mem, rfl⟩
  · have kept := List.mem_map_of_mem (f := fun row => if row.operationId = operationId then f row else row) mem
    rw [← (setOperation_ok done).2.2] at kept
    refine ⟨_, kept, ?_⟩
    split
    · exact keeps operation
    · rfl

/-- No event drops an operation. -/
theorem Move.keeps_operation {operation : Operation} (move : Move store store' event) (mem : operation ∈ store.operations) :
    ∃ operation' ∈ store'.operations, Restated operation operation' := by
  cases move with
  | stays event same =>
    subst same
    exact ⟨operation, mem, rfl⟩
  | reserves plan ownerDigest deviceDigest allocationId now allocation done =>
    exact ⟨operation, (reserve_ok done).2.1 ▸ mem, rfl⟩
  | admits plan allocation recipeId kind payloadDigest operationId now bound operations found held new checked inserted done =>
    rw [(setState_ok done).1]
    exact ⟨operation, (Table.mem_insert? inserted).mpr (.inl mem), rfl⟩
  | dispatches allocation operationId restates => exact restates.keeps mem
  | quarantines event allocation middle reason now on restates done =>
    rw [(setState_ok done).1]
    exact restates.keeps mem
  | settles allocation operationId remote now bound operation middle found operation? of answers changed done =>
    rw [(setState_ok done).1]
    have settled : store.Restates allocation middle := .inr ⟨operationId, fun row =>
      { row with
        state := (outcome remote now).1
        completedAtMs := remote.completedAtMs
        retentionExpiresAtMs := remote.retentionExpiresAtMs }, fun _ => rfl, ⟨operation, operation?, of⟩, changed⟩
    exact settled.keeps mem
  | readies plan allocation now bound found prepared done => exact ⟨operation, (setState_ok done).1 ▸ mem, rfl⟩
  | seals plan ownerDigest deviceDigest allocationId now past history absent inserted sealed same =>
    subst same
    exact ⟨operation, mem, rfl⟩
  | releases allocation now bound found unstarted done => exact ⟨operation, (setState_ok done).1 ▸ mem, rfl⟩
  | restarts now done =>
    simp only [recoverUnfinished, bind_eq_ok, orFail_eq_ok, pure_eq_ok] at done
    obtain ⟨operations, updated, allocations, -, rfl⟩ := done
    have kept := List.mem_map_of_mem (f := fun row : Operation => if row.state = .admitted ∨ row.state = .dispatched then
      { row with state := .unknown } else row) mem
    refine ⟨_, Table.rows_of_update? updated ▸ kept, ?_⟩
    split
    · rfl
    · rfl

/-- An operation was admitted once, when `unsafe_prior` was as its row says. -/
theorem run_admitted {events : List Event} {operation : Operation} (mem : operation ∈ (empty.run events).operations) :
    ∃ before plan allocation now after,
      events = before ++ Event.admitOperation plan allocation operation.recipeId operation.operation operation.payloadDigest
          operation.operationId now :: after ∧
        operation.Of allocation.allocationId allocation.generation ∧
        (empty.run before).operation? operation.operationId = none ∧
        operation.unsafePrior =
          (empty.run before).unsafePrior operation.allocationId operation.generation operation.operation := by
  induction events using List.reverseRecOn generalizing operation with
  | nil => cases mem
  | append_singleton events event ih =>
    have earlier {operation' : Operation} (old : operation' ∈ (empty.run events).operations)
        (restated : Restated operation' operation) :
        ∃ before plan allocation now after,
          events ++ [event] = before ++ Event.admitOperation plan allocation operation.recipeId operation.operation
              operation.payloadDigest operation.operationId now :: after ∧
            operation.Of allocation.allocationId allocation.generation ∧
            (empty.run before).operation? operation.operationId = none ∧
            operation.unsafePrior =
              (empty.run before).unsafePrior operation.allocationId operation.generation operation.operation := by
      obtain ⟨before, plan, allocation, now, after, rfl, of, new, overlaps⟩ := ih old
      rw [restated]
      exact ⟨before, plan, allocation, now, after ++ [event], by simp, of, new, overlaps⟩
    rw [run_append, run, List.foldl_cons, List.foldl_nil, step] at mem
    cases done : (empty.run events).apply event with
    | error e =>
      rw [done] at mem
      exact earlier mem rfl
    | ok store' =>
      rw [done] at mem
      obtain ⟨operation', old, restated⟩ | ⟨plan, allocation, now, rfl, of, new, overlaps⟩ :=
        (apply_move done).operations mem
      · exact earlier old restated
      · exact ⟨events, plan, allocation, now, [], rfl, of, new, overlaps⟩

theorem used_iff : store.Used allocationId ↔
    (∃ row ∈ store.allocations, row.allocationId = allocationId) ∨ ∃ past ∈ store.history, past.allocationId = allocationId := by
  simp only [Used, Option.isSome_iff_exists, allocation?_eq_some, past?_eq_some]

theorem keeps_of_setState (done : store.setState allocation state reason now = .ok store') (mem : row ∈ store.allocations) :
    ∃ row' ∈ store'.allocations, Moved row row' := by
  have kept := List.mem_map_of_mem (f := fun row : Allocation =>
    if row.allocationId = allocation.allocationId ∧ row.generation = allocation.generation then
      { row with state, reason, updatedAtMs := now } else row) mem
  refine ⟨_, (setState_ok done).2.2 ▸ kept, ?_⟩
  split
  · rfl
  · rfl

theorem kept_past {past : Past} (mem : past ∈ store.history) :
    past ∈ (store.history.insert? ⟨row.allocationId, row⟩).getD store.history := by
  cases inserted : store.history.insert? ⟨row.allocationId, row⟩ with
  | none => exact mem
  | some history => exact (Table.mem_insert? inserted).mpr (.inl mem)

/-- A row whose slot is reserved anew is in the history, unless its identity was there already. -/
theorem new_past : ∃ past ∈ (store.history.insert? ⟨row.allocationId, row⟩).getD store.history,
    past.allocationId = row.allocationId ∧ (store.past? row.allocationId = none → past.binding = row) := by
  cases inserted : store.history.insert? ⟨row.allocationId, row⟩ with
  | some history => exact ⟨_, (Table.mem_insert? inserted).mpr (.inr rfl), rfl, fun _ => rfl⟩
  | none =>
    by_contra fresh
    obtain ⟨history, inserted'⟩ := Table.insert?_isSome (t := store.history) (r := ⟨row.allocationId, row⟩)
      (fun past mem clash => fresh ⟨past, mem, clash, fun none => by
        cases none.symm.trans (past?_eq_some.mpr ⟨mem, clash⟩)⟩) trivial
    cases inserted.symm.trans inserted'

/-- What becomes of a row: it keeps all but its state, or its slot is reserved anew. -/
theorem Move.keeps_allocation (move : Move store store' event) (mem : row ∈ store.allocations) :
    (∃ row' ∈ store'.allocations, Moved row row') ∨
      row.state = .available ∧
        (∃ past ∈ store'.history, past.allocationId = row.allocationId ∧
          (store.past? row.allocationId = none → past.binding = row)) ∧
        ∃ row' ∈ store'.allocations, row'.projectId = row.projectId ∧ row'.fixtureId = row.fixtureId ∧
          row'.generation = row.generation + 1 := by
  cases move with
  | stays event same =>
    subst same
    exact .inl ⟨row, mem, rfl⟩
  | reserves plan ownerDigest deviceDigest allocationId now allocation done =>
    obtain ⟨-, -, -, ⟨-, -, -, rows⟩ | ⟨found, find, available, -, history, rows⟩⟩ := reserve_ok done
    · have kept : row ∈ store'.allocations.rows := rows ▸ List.mem_append_left _ mem
      exact .inl ⟨row, kept, rfl⟩
    · have kept := List.mem_map_of_mem (f := fun row' : Allocation => if OfSlot plan row' then
          reservedRow plan ownerDigest deviceDigest allocationId (found.generation + 1) now else row') mem
      rw [← rows] at kept
      obtain ⟨foundMem, foundSlot⟩ := Table.mem_of_find? find
      split at kept
      · rename_i slot
        obtain rfl : row = found := Table.eq_of_clash mem foundMem
          (Or.inl ⟨slot.1.trans foundSlot.1.symm, slot.2.trans foundSlot.2.symm⟩)
        exact .inr ⟨available, history ▸ new_past, _, kept, slot.1.symm, slot.2.symm, rfl⟩
      · exact .inl ⟨row, kept, rfl⟩
  | admits plan allocation recipeId kind payloadDigest operationId now bound operations found held new checked inserted done =>
    exact .inl (keeps_of_setState done mem)
  | dispatches allocation operationId restates =>
    exact .inl ⟨row, restates.allocations.1 ▸ mem, rfl⟩
  | quarantines event allocation middle reason now on restates done =>
    exact .inl (keeps_of_setState done (restates.allocations.1 ▸ mem))
  | settles allocation operationId remote now bound operation middle found operation? of answers restated done =>
    exact .inl (keeps_of_setState done ((setOperation_ok restated).1 ▸ mem))
  | readies plan allocation now bound found prepared done => exact .inl (keeps_of_setState done mem)
  | seals plan ownerDigest deviceDigest allocationId now past history absent inserted sealed same =>
    subst same
    exact .inl ⟨row, mem, rfl⟩
  | releases allocation now bound found unstarted done => exact .inl (keeps_of_setState done mem)
  | restarts now done =>
    simp only [recoverUnfinished, bind_eq_ok, orFail_eq_ok, pure_eq_ok] at done
    obtain ⟨operations, -, allocations, updated, rfl⟩ := done
    have kept := List.mem_map_of_mem (f := fun row : Allocation => if row.state ≠ .available ∧ row.state ≠ .quarantined then
      { row with state := .quarantined, updatedAtMs := now, reason := some "process_restarted" } else row) mem
    refine .inl ⟨_, Table.rows_of_update? updated ▸ kept, ?_⟩
    split
    · rfl
    · rfl

theorem Move.keeps_past {past : Past} (move : Move store store' event) (mem : past ∈ store.history) :
    past ∈ store'.history := by
  cases move with
  | stays event same => exact same ▸ mem
  | reserves plan ownerDigest deviceDigest allocationId now allocation done =>
    obtain ⟨-, -, -, ⟨-, -, same, -⟩ | ⟨row, -, -, -, same, -⟩⟩ := reserve_ok done
    · exact same ▸ mem
    · exact same ▸ kept_past mem
  | admits plan allocation recipeId kind payloadDigest operationId now bound operations found held new checked inserted done =>
    exact (setState_ok done).2.1 ▸ mem
  | dispatches allocation operationId restates => exact restates.allocations.2 ▸ mem
  | quarantines event allocation middle reason now on restates done =>
    rw [(setState_ok done).2.1, restates.allocations.2]
    exact mem
  | settles allocation operationId remote now bound operation middle found operation? of answers restated done =>
    rw [(setState_ok done).2.1, (setOperation_ok restated).2.1]
    exact mem
  | readies plan allocation now bound found prepared done => exact (setState_ok done).2.1 ▸ mem
  | seals plan ownerDigest deviceDigest allocationId now sealedPast history absent inserted sealed same =>
    subst same
    exact (Table.mem_insert? inserted).mpr (.inl mem)
  | releases allocation now bound found unstarted done => exact (setState_ok done).2.1 ▸ mem
  | restarts now done =>
    simp only [recoverUnfinished, bind_eq_ok, orFail_eq_ok, pure_eq_ok] at done
    obtain ⟨operations, -, allocations, -, rfl⟩ := done
    exact mem

/-- An identity that was given out stays used. -/
theorem Move.used (move : Move store store' event) (used : store.Used allocationId) : store'.Used allocationId := by
  rw [used_iff] at used ⊢
  obtain ⟨row, mem, rfl⟩ | ⟨past, mem, rfl⟩ := used
  · obtain ⟨row', mem', moved⟩ | ⟨-, ⟨past, mem', named, -⟩, -⟩ := move.keeps_allocation mem
    · rw [moved] at mem'
      exact .inl ⟨_, mem', rfl⟩
    · exact .inr ⟨past, mem', named⟩
  · exact .inr ⟨past, move.keeps_past mem, rfl⟩

/-- A slot keeps a row whose generation does not fall. -/
theorem Move.keeps_slot {projectId fixtureId : String} (move : Move store store' event)
    (reached : ∃ row ∈ store.allocations, row.projectId = projectId ∧ row.fixtureId = fixtureId ∧ generation ≤ row.generation) :
    ∃ row ∈ store'.allocations, row.projectId = projectId ∧ row.fixtureId = fixtureId ∧ generation ≤ row.generation := by
  obtain ⟨row, mem, rfl, rfl, below⟩ := reached
  obtain ⟨row', mem', moved⟩ | ⟨-, -, row', mem', project, fixture, next⟩ := move.keeps_allocation mem
  · rw [moved] at mem'
    exact ⟨_, mem', rfl, rfl, below⟩
  · exact ⟨row', mem', project, fixture, next ▸ Nat.le_succ_of_le below⟩

end Store

end Reproof.Fixtures

import Reproof.Live.RecordingSession.Quiet

/-! The receipts of the inputs of a recording: each is kept once, in the original or behind it. -/

namespace Reproof.Live.RecordingSession

open Contracts Library

namespace Journal

variable {j j' j'' : Journal}

/-- The lifecycle receipts are those of the original, numbered from 1, one for each operation and kind. -/
structure Numbered (j : Journal) : Prop where
  once : (j.lifecycle.map fun receipt => (receipt.operationId, receipt.kind)).Nodup
  sequences : j.lifecycle.map (·.sequence) = (List.range j.lifecycle.length).map fun n : Nat => (n : Int) + 1
  count : j.row.lifecycleSequence = j.lifecycle.length
  digests : ∀ receipt ∈ j.lifecycle, j.row.recordingDigest = some receipt.recordingDigest

/-- The journal gets lifecycle receipts and nothing else. -/
structure Appends (j j' : Journal) : Prop where
  same : j' = { j with
    lifecycle := j'.lifecycle
    row := { j.row with lifecycleSequence := j'.row.lifecycleSequence } }
  grown : j.lifecycle <+: j'.lifecycle
  numbered : j.Numbered → j'.Numbered

theorem Appends.refl : j.Appends j := ⟨rfl, List.prefix_rfl, id⟩

theorem Appends.trans (first : j.Appends j') (second : j'.Appends j'') : j.Appends j'' where
  same := by
    rw [second.same, first.same]
  grown := first.grown.trans second.grown
  numbered numbered := second.numbered (first.numbered numbered)

/-- `_append_lifecycle_locked` finds the receipt, or puts it at the end. -/
theorem appendLifecycle_ok {operationId : String} {generation observedAtMs : Int} {kind : LifecycleKind}
    {status : LifecycleStatus} (done : j.appendLifecycle operationId generation kind status observedAtMs = .ok j') :
    j.Appends j' ∧
      (∃ receipt ∈ j'.lifecycle, receipt.operationId = operationId ∧ receipt.kind = kind ∧ receipt.status = status) ∧
      ∀ receipt ∈ j'.lifecycle, receipt ∈ j.lifecycle ∨ receipt.operationId = operationId ∧ receipt.kind = kind := by
  unfold appendLifecycle at done
  split at done
  · rename_i existing found
    simp only [bind_eq_ok, require_eq_ok, pure_eq_ok] at done
    obtain ⟨-, same, rfl⟩ := done
    have about : existing.operationId = operationId ∧ existing.kind = kind := by simpa using List.find?_some found
    exact ⟨.refl, ⟨existing, List.mem_of_find?_eq_some found, about.1, about.2, same.2⟩, fun _ => .inl⟩
  · rename_i missing
    simp only [bind_eq_ok, require_eq_ok, pure_eq_ok] at done
    obtain ⟨_, -, _, valid, rfl⟩ := done
    simp only [validateLifecycleReceipt, isSha256, bind_eq_ok, require_eq_ok] at valid
    obtain ⟨_, -, _, -, _, digest, -⟩ := valid
    refine ⟨⟨rfl, List.prefix_append .., fun numbered => ?_⟩, ⟨_, List.mem_append_right _ (List.mem_singleton_self _),
      rfl, rfl, rfl⟩, fun receipt member => ?_⟩
    · have digested : j.row.recordingDigest = some (j.row.recordingDigest.getD "") := by
        cases at_digest : j.row.recordingDigest with
        | none =>
          rw [at_digest] at digest
          exact absurd digest (by decide)
        | some found => rfl
      constructor
      · rw [List.map_append, List.nodup_append]
        refine ⟨numbered.once, List.nodup_singleton _, fun key old new fresh same => ?_⟩
        obtain ⟨receipt, member, rfl⟩ := List.mem_map.mp old
        obtain rfl := List.mem_singleton.mp fresh
        have absent := List.find?_eq_none.mp missing receipt member
        exact absent (decide_eq_true ⟨congrArg Prod.fst same, congrArg Prod.snd same⟩)
      · dsimp only
        rw [List.map_append, numbered.sequences, numbered.count, List.length_append, List.length_singleton,
          List.range_succ, List.map_append]
        rfl
      · dsimp only
        rw [List.length_append, numbered.count]
        rfl
      · intro receipt member
        obtain old | new := List.mem_append.mp member
        · exact numbered.digests receipt old
        · rw [List.mem_singleton.mp new]
          exact digested
    · obtain old | new := List.mem_append.mp member
      · exact .inl old
      · rw [List.mem_singleton.mp new]
        exact .inr ⟨rfl, rfl⟩

/-- The late receipts of the pending table get behind the original, each with its status. -/
theorem appendPending_ok {rows : List PendingRow} (done : appendPending rows j = .ok j') :
    j.Appends j' ∧
      (∀ row ∈ rows, ∃ receipt ∈ j'.lifecycle, receipt.operationId = row.operationId ∧ receipt.kind = row.kind ∧
        receipt.status = row.status) ∧
      ∀ receipt ∈ j'.lifecycle, receipt ∈ j.lifecycle ∨
        ∃ row ∈ rows, receipt.operationId = row.operationId ∧ receipt.kind = row.kind := by
  induction rows generalizing j with
  | nil =>
    cases done
    exact ⟨.refl, List.forall_mem_nil _, fun _ => .inl⟩
  | cons row rows ih =>
    simp only [appendPending, bind_eq_ok] at done
    obtain ⟨next, first, rest⟩ := done
    obtain ⟨appended, found, origin⟩ := appendLifecycle_ok first
    obtain ⟨appended', found', origin'⟩ := ih rest
    refine ⟨appended.trans appended', fun row' member => ?_, fun receipt member => ?_⟩
    · cases member with
      | head =>
        obtain ⟨receipt, member, about⟩ := found
        exact ⟨receipt, appended'.grown.subset member, about⟩
      | tail _ member => exact found' row' member
    · obtain old | ⟨row', member', about⟩ := origin' receipt member
      · obtain old | about := origin receipt old
        · exact .inl old
        · exact .inr ⟨row, List.mem_cons_self, about⟩
      · exact .inr ⟨row', List.mem_cons_of_mem _ member', about⟩

/-- What a receipt may change. -/
theorem recordReceipt_frame {operationId : String} {status : Dispatch} {errorCode : Option String} {stamp : Stamp}
    {receipt : InputReceipt} (done : j.recordReceipt operationId status errorCode stamp = .ok (j', receipt)) :
    j' = { j with
      events := j'.events
      pending := j'.pending
      lifecycle := j'.lifecycle
      row := { j.row with lifecycleSequence := j'.row.lifecycleSequence } } := by
  simp only [recordReceipt, bind_eq_ok] at done
  obtain ⟨event, -, done⟩ := done
  split at done
  · simp only [bind_eq_ok, require_eq_ok, pure_eq_ok, Prod.mk.injEq] at done
    obtain ⟨-, -, rfl, -⟩ := done
    rfl
  · split at done
    · simp only [pure_eq_ok, Prod.mk.injEq] at done
      obtain ⟨rfl, -⟩ := done
      rfl
    · simp only [bind_eq_ok, pure_eq_ok, Prod.mk.injEq] at done
      obtain ⟨late, done, rfl, -⟩ := done
      unfold lateReceipt at done
      split at done
      · split at done
        · simp only [bind_eq_ok, require_eq_ok, pure_eq_ok] at done
          obtain ⟨-, -, rfl⟩ := done
          rfl
        · simp only [bind_eq_ok, require_eq_ok, pure_eq_ok] at done
          obtain ⟨-, -, rfl⟩ := done
          rfl
      · have same := (appendLifecycle_ok done).1.same
        rw [same]

/-- What a freeze may change. -/
theorem commitOriginal_frame {original : OriginalEvidence} {digest objectDigest : String} {recovery : Bool}
    (done : j.commitOriginal original digest objectDigest recovery = .ok j') :
    j' = { j with
      pending := j'.pending
      lifecycle := j'.lifecycle
      row := { j.row with
        state := j'.row.state
        original := j'.row.original
        recordingDigest := j'.row.recordingDigest
        originalObjectDigest := j'.row.originalObjectDigest
        lifecycleSequence := j'.row.lifecycleSequence } } := by
  unfold commitOriginal at done
  split at done
  · simp only [bind_eq_ok] at done
    obtain ⟨stopped, first, moved, second, done⟩ := done
    have frozen := (appendLifecycle_ok first).1.same
    have pending := (appendPending_ok second).1.same
    split at done
    · have last := (appendLifecycle_ok done).1.same
      rw [last, pending, frozen]
      split
      · rfl
      · rfl
    · cases done
      rw [pending, frozen]
      split
      · rfl
      · rfl
  · cases done
    rfl

/-- What the journal holds of the receipts of its inputs. -/
structure Booked (j : Journal) : Prop where
  once : (j.events.map (·.operationId)).Nodup
  own : ∀ event ∈ j.events, ∀ receipt ∈ event.receipt, receipt.operationId = event.operationId
  late : ∀ row ∈ j.pending, row.kind = .ack ∧
    ∃ event ∈ j.events, event.operationId = row.operationId ∧ event.receipt = none
  lateOnce : (j.pending.map (·.operationId)).Nodup
  acks : ∀ receipt ∈ j.lifecycle, receipt.kind = .ack →
    ∃ event ∈ j.events, event.operationId = receipt.operationId ∧ event.receipt = none
  numbered : j.Numbered
  early : j.row.state = .preparing ∨ j.row.state = .recording →
    j.row.barrierSequence = none ∧ j.row.recordingDigest = none ∧ j.row.original = none ∧ j.pending = []
  fenced : j.row.state = .finalizing →
    j.row.barrierSequence = some j.events.length ∧ j.row.recordingDigest = none ∧ j.row.original = none
  frozen : j.row.state.Frozen → j.row.recordingDigest.isSome ∧ j.pending = [] ∧
    ∃ original, j.row.original = some original ∧ original.events = j.frozenEvents ∧
      j.row.barrierSequence = some j.events.length

/-- The receipt is kept: with its event, or as a late one. -/
def Files (j : Journal) (receipt : InputReceipt) : Prop :=
  ∃ event ∈ j.events, event.operationId = receipt.operationId ∧
    (event.receipt = some receipt ∨ event.receipt = none ∧
      ((∃ row ∈ j.pending, row.operationId = receipt.operationId ∧ row.status = lifecycleStatus receipt.status) ∨
        ∃ ack ∈ j.lifecycle, ack.kind = .ack ∧ ack.operationId = receipt.operationId ∧
          ack.status = lifecycleStatus receipt.status))

theorem Booked.none_behind (booked : j.Booked) (open_ : j.row.recordingDigest = none) : j.lifecycle = [] := by
  cases at_lifecycle : j.lifecycle with
  | nil => rfl
  | cons receipt rest =>
    have digest := booked.numbered.digests receipt (at_lifecycle ▸ List.mem_cons_self)
    rw [open_] at digest
    cases digest

/-- Nothing about the inputs has changed. -/
structure SameInputs (j j' : Journal) : Prop where
  events : j'.events = j.events
  pending : j'.pending = j.pending
  lifecycle : j'.lifecycle = j.lifecycle
  state : j'.row.state = j.row.state
  barrier : j'.row.barrierSequence = j.row.barrierSequence
  digest : j'.row.recordingDigest = j.row.recordingDigest
  original : j'.row.original = j.row.original
  count : j'.row.lifecycleSequence = j.row.lifecycleSequence

theorem Quiet.sameInputs (quiet : j.Quiet j') : j.SameInputs j' where
  events := quiet.events
  pending := quiet.pending
  lifecycle := quiet.lifecycle
  state := by rw [quiet.row]
  barrier := by rw [quiet.row]
  digest := by rw [quiet.row]
  original := by rw [quiet.row]
  count := by rw [quiet.row]

theorem SameInputs.frozenEvents (same : j.SameInputs j') : j'.frozenEvents = j.frozenEvents := by
  rw [Journal.frozenEvents, same.events, same.barrier, Journal.frozenEvents]

theorem SameInputs.files (same : j.SameInputs j') {receipt : InputReceipt} (files : j.Files receipt) :
    j'.Files receipt := by
  rw [Files, same.events, same.pending, same.lifecycle]
  exact files

theorem Booked.same (booked : j.Booked) (same : j.SameInputs j') : j'.Booked where
  once := by
    rw [same.events]
    exact booked.once
  own := by
    rw [same.events]
    exact booked.own
  late := by
    rw [same.pending, same.events]
    exact booked.late
  lateOnce := by
    rw [same.pending]
    exact booked.lateOnce
  acks := by
    rw [same.lifecycle, same.events]
    exact booked.acks
  numbered := by
    obtain ⟨once, sequences, count, digests⟩ := booked.numbered
    constructor
    · rw [same.lifecycle]
      exact once
    · rw [same.lifecycle]
      exact sequences
    · rw [same.lifecycle, same.count]
      exact count
    · rw [same.lifecycle, same.digest]
      exact digests
  early := by
    rw [same.state, same.barrier, same.digest, same.original, same.pending]
    exact booked.early
  fenced := by
    rw [same.state, same.barrier, same.digest, same.original, same.events]
    exact booked.fenced
  frozen := by
    rw [same.state, same.barrier, same.digest, same.original, same.pending, same.events, same.frozenEvents]
    exact booked.frozen

theorem Booked.admitInput (booked : j.Booked) {python : Interpreter} {encode : Input → Json}
    {operationId providerIncarnation : String} {generation : Int} {input : Input} {stamp : Stamp}
    (done : j.admitInput python encode operationId generation providerIncarnation input stamp = .ok j') :
    j'.Booked ∧ j.Admitting ∧ j'.row = j.row ∧ (∀ receipt, j.Files receipt → j'.Files receipt) ∧
      ∃ event : EventRow, j'.events = j.events ++ [event] ∧ event.receipt = none ∧
        ∀ old ∈ j.events, old.operationId ≠ event.operationId := by
  simp only [Journal.admitInput, bind_eq_ok, require_eq_ok, pure_eq_ok] at done
  obtain ⟨-, admitting, -, -, -, -, -, -, -, new, rfl⟩ := done
  obtain ⟨barrier, digest, original, pending⟩ := booked.early (.inr admitting.1)
  have behind := booked.none_behind digest
  refine ⟨⟨?_, ?_, ?_, ?_, ?_, ⟨booked.numbered.once, booked.numbered.sequences, booked.numbered.count,
    booked.numbered.digests⟩, booked.early, fun state => ?_, fun state => ?_⟩, admitting, rfl, fun receipt files => ?_, ?_⟩
  · dsimp only
    rw [List.map_append, List.nodup_append]
    refine ⟨booked.once, List.nodup_singleton _, fun key old fresh found same => ?_⟩
    obtain rfl := List.mem_singleton.mp found
    exact new (same ▸ old)
  · intro event member receipt told
    obtain old | fresh := List.mem_append.mp member
    · exact booked.own event old receipt told
    · rw [List.mem_singleton.mp fresh] at told
      cases told
  · dsimp only
    rw [pending]
    exact List.forall_mem_nil _
  · exact booked.lateOnce
  · dsimp only
    rw [behind]
    exact List.forall_mem_nil _
  · have recording := admitting.1
    rw [state] at recording
    cases recording
  · have recording := admitting.1
    obtain frozen | frozen := state
    · rw [frozen] at recording
      cases recording
    · rw [frozen] at recording
      cases recording
  · obtain ⟨event, member, about⟩ := files
    exact ⟨event, List.mem_append_left _ member, about⟩
  · exact ⟨_, rfl, rfl, fun old member same => new (List.mem_map.mpr ⟨old, member, same⟩)⟩

/-- A recording that admits inputs has no late receipts. -/
theorem Booked.of_admitting (booked : j.Booked) (admitting : j.Admitting) : j.pending = [] ∧ j.lifecycle = [] := by
  obtain ⟨-, digest, -, pending⟩ := booked.early (.inr admitting.1)
  exact ⟨pending, booked.none_behind digest⟩

theorem mem_updateEvent {operationId : String} {change : EventRow → EventRow} {event : EventRow} :
    event ∈ (j.updateEvent operationId change).events ↔
      ∃ old ∈ j.events, event = if old.operationId = operationId then change old else old := by
  rw [updateEvent, List.mem_map]
  exact ⟨fun ⟨old, member, same⟩ => ⟨old, member, same.symm⟩, fun ⟨old, member, same⟩ => ⟨old, member, same.symm⟩⟩

/-- While the recording admits inputs, the row of one of them changes. -/
theorem Booked.updateEvent (booked : j.Booked) (admitting : j.Admitting) {operationId : String}
    {change : EventRow → EventRow} (keeps : ∀ event, (change event).operationId = event.operationId)
    (own : ∀ event, event.operationId = operationId → (∀ receipt ∈ event.receipt, receipt.operationId = operationId) →
      ∀ receipt ∈ (change event).receipt, receipt.operationId = operationId) :
    (j.updateEvent operationId change).Booked := by
  obtain ⟨pending, lifecycle⟩ := booked.of_admitting admitting
  have recording := admitting.1
  constructor
  · have same : (j.updateEvent operationId change).events.map (·.operationId) = j.events.map (·.operationId) := by
      rw [Journal.updateEvent, List.map_map]
      refine List.map_congr_left fun event _ => ?_
      dsimp only [Function.comp]
      split
      · exact keeps event
      · rfl
    rw [same]
    exact booked.once
  · intro event member receipt told
    obtain ⟨old, member', rfl⟩ := mem_updateEvent.mp member
    split at told
    · rename_i about
      rw [if_pos about, keeps, about]
      exact own old about (fun receipt told => (booked.own old member' receipt told).trans about) receipt told
    · rename_i other
      rw [if_neg other]
      exact booked.own old member' receipt told
  · dsimp only [Journal.updateEvent]
    rw [pending]
    exact List.forall_mem_nil _
  · exact booked.lateOnce
  · dsimp only [Journal.updateEvent]
    rw [lifecycle]
    exact List.forall_mem_nil _
  · exact ⟨booked.numbered.once, booked.numbered.sequences, booked.numbered.count, booked.numbered.digests⟩
  · exact booked.early
  · intro state
    rw [show j.row.state = .finalizing from state] at recording
    cases recording
  · intro state
    obtain frozen | frozen := state
    · rw [show j.row.state = .frozenComplete from frozen] at recording
      cases recording
    · rw [show j.row.state = .frozenIncomplete from frozen] at recording
      cases recording

theorem Booked.markDispatched (booked : j.Booked) {operationId : String}
    (done : j.markDispatched operationId = .ok j') :
    j'.Booked ∧ j.Admitting ∧
      j' = j.updateEvent operationId fun event => { event with dispatchStarted := true } := by
  simp only [Journal.markDispatched, bind_eq_ok, require_eq_ok, pure_eq_ok] at done
  obtain ⟨-, admitting, -, -, rfl⟩ := done
  exact ⟨booked.updateEvent admitting (fun _ => rfl) fun _ _ told => told, admitting, rfl⟩

/-- What `record_receipt` may find, and do. -/
theorem Booked.recordReceipt_ok (booked : j.Booked) {operationId : String} {status : Dispatch}
    {errorCode : Option String} {stamp : Stamp} {receipt : InputReceipt}
    (done : j.recordReceipt operationId status errorCode stamp = .ok (j', receipt)) :
    ∃ event ∈ j.events, event.operationId = operationId ∧ receipt.operationId = operationId ∧
      receipt.status = status ∧ receipt.errorCode = errorCode ∧
      (event.receipt = some receipt ∧ j' = j ∨
        event.receipt = none ∧ j.Admitting ∧
          j' = (j.updateEvent operationId fun event => { event with dispatch := status, receipt := some receipt }) ∨
        event.receipt = none ∧ ¬ j.Admitting ∧ j.lateReceipt event status receipt.observedAtMs = .ok j') := by
  simp only [recordReceipt, bind_eq_ok, orFail_eq_ok] at done
  obtain ⟨event, found, done⟩ := done
  have member := List.mem_of_find?_eq_some found
  have about : event.operationId = operationId := by simpa using List.find?_some found
  refine ⟨event, member, about, ?_⟩
  cases told : event.receipt with
  | some existing =>
    rw [told] at done
    simp only [bind_eq_ok, require_eq_ok, pure_eq_ok, Prod.mk.injEq] at done
    obtain ⟨-, same, rfl, rfl⟩ := done
    exact ⟨(booked.own event member existing told).trans about, same.1, same.2, .inl ⟨rfl, rfl⟩⟩
  | none =>
    rw [told] at done
    dsimp only at done
    split at done
    · rename_i admitting
      simp only [pure_eq_ok, Prod.mk.injEq] at done
      obtain ⟨rfl, rfl⟩ := done
      exact ⟨about, rfl, rfl, .inr (.inl ⟨rfl, admitting, rfl⟩)⟩
    · rename_i closed
      simp only [bind_eq_ok, pure_eq_ok, Prod.mk.injEq] at done
      obtain ⟨late, done, rfl, rfl⟩ := done
      exact ⟨about, rfl, rfl, .inr (.inr ⟨rfl, closed, done⟩)⟩

/-- The inputs are as they were, and what is known of late receipts has grown. -/
structure Later (j j' : Journal) : Prop where
  events : j'.events = j.events
  state : j'.row.state = j.row.state
  barrier : j'.row.barrierSequence = j.row.barrierSequence
  digest : j'.row.recordingDigest = j.row.recordingDigest
  original : j'.row.original = j.row.original
  pending : j.pending ⊆ j'.pending
  lifecycle : j.lifecycle <+: j'.lifecycle

theorem Appends.later (appends : j.Appends j') : j.Later j' := by
  constructor
  · rw [appends.same]
  · rw [appends.same]
  · rw [appends.same]
  · rw [appends.same]
  · rw [appends.same]
  · rw [appends.same]
    exact fun _ member => member
  · exact appends.grown

theorem Later.files (later : j.Later j') {receipt : InputReceipt} (files : j.Files receipt) : j'.Files receipt := by
  obtain ⟨event, member, about, kept⟩ := files
  refine ⟨event, later.events ▸ member, about, kept.imp_right fun ⟨none_, late⟩ => ⟨none_, late.imp ?_ ?_⟩⟩
  · rintro ⟨row, member, about⟩
    exact ⟨row, later.pending member, about⟩
  · rintro ⟨ack, member, about⟩
    exact ⟨ack, later.lifecycle.subset member, about⟩

/-- Receipts get behind the original of a recording that is frozen. -/
theorem Booked.appends (booked : j.Booked) (appends : j.Appends j') (digest : j.row.recordingDigest.isSome)
    (acks : ∀ receipt ∈ j'.lifecycle, receipt.kind = .ack → receipt ∈ j.lifecycle ∨
      ∃ event ∈ j.events, event.operationId = receipt.operationId ∧ event.receipt = none) : j'.Booked := by
  have later := appends.later
  have pending : j'.pending = j.pending := by
    rw [appends.same]
  constructor
  · rw [later.events]
    exact booked.once
  · rw [later.events]
    exact booked.own
  · rw [later.events, pending]
    exact booked.late
  · rw [pending]
    exact booked.lateOnce
  · intro receipt member ack
    rw [later.events]
    obtain old | found := acks receipt member ack
    · exact booked.acks receipt old ack
    · exact found
  · exact appends.numbered booked.numbered
  · intro state
    rw [later.state] at state
    rw [(booked.early state).2.1] at digest
    cases digest
  · intro state
    rw [later.state] at state
    rw [(booked.fenced state).2.1] at digest
    cases digest
  · intro state
    rw [later.state] at state
    rw [later.digest, later.original, pending, later.barrier, later.events, frozenEvents, later.barrier, later.events]
    exact booked.frozen state

/-- A recording that is past its barrier and has no original is being finalized. -/
theorem Booked.finalizing (booked : j.Booked) (past : ¬ (j.row.state = .preparing ∨ j.row.state = .recording))
    (open_ : j.row.recordingDigest = none) : j.row.state = .finalizing := by
  have unfrozen : ¬ j.row.state.Frozen := fun frozen => by
    have digest := (booked.frozen frozen).1
    rw [open_] at digest
    cases digest
  cases state : j.row.state with
  | preparing => exact absurd (.inl state) past
  | recording => exact absurd (.inr state) past
  | finalizing => rfl
  | frozenComplete => exact absurd (.inl state) unfrozen
  | frozenIncomplete => exact absurd (.inr state) unfrozen

/-- A late receipt gets into the pending table or behind the original. -/
theorem Booked.lateReceipt (booked : j.Booked) {event : EventRow} {status : Dispatch} {observedAtMs : Int}
    (member : event ∈ j.events) (told : event.receipt = none)
    (past : ¬ (j.row.state = .preparing ∨ j.row.state = .recording))
    (done : j.lateReceipt event status observedAtMs = .ok j') :
    j'.Booked ∧ j.Later j' ∧
      ((∃ row ∈ j'.pending, row.operationId = event.operationId ∧ row.status = lifecycleStatus status) ∨
        ∃ ack ∈ j'.lifecycle, ack.kind = .ack ∧ ack.operationId = event.operationId ∧
          ack.status = lifecycleStatus status) := by
  unfold Journal.lateReceipt at done
  split at done
  · rename_i open_
    split at done
    · rename_i missing
      simp only [bind_eq_ok, require_eq_ok, pure_eq_ok] at done
      obtain ⟨-, -, rfl⟩ := done
      refine ⟨⟨booked.once, booked.own, fun row found => ?_, ?_, booked.acks,
        ⟨booked.numbered.once, booked.numbered.sequences, booked.numbered.count, booked.numbered.digests⟩,
        fun state => absurd state past, booked.fenced, fun state => ?_⟩,
        ⟨rfl, rfl, rfl, rfl, rfl, List.subset_append_left .., List.prefix_rfl⟩,
        .inl ⟨_, List.mem_append_right _ (List.mem_singleton_self _), rfl, rfl⟩⟩
      · obtain old | fresh := List.mem_append.mp found
        · exact booked.late row old
        · rw [List.mem_singleton.mp fresh]
          exact ⟨rfl, event, member, rfl, told⟩
      · rw [List.map_append, List.nodup_append]
        refine ⟨booked.lateOnce, List.nodup_singleton _, fun key old fresh found same => ?_⟩
        obtain ⟨row, found', rfl⟩ := List.mem_map.mp old
        obtain rfl := List.mem_singleton.mp found
        have absent := List.find?_eq_none.mp missing row found'
        exact absent (decide_eq_true ⟨same, (booked.late row found').1⟩)
      · have frozen := (booked.frozen state).1
        rw [open_] at frozen
        cases frozen
    · rename_i row found
      simp only [bind_eq_ok, require_eq_ok, pure_eq_ok] at done
      obtain ⟨-, same, rfl⟩ := done
      have about : row.operationId = event.operationId ∧ row.kind = .ack := by simpa using List.find?_some found
      exact ⟨booked, ⟨rfl, rfl, rfl, rfl, rfl, fun _ member => member, List.prefix_rfl⟩,
        .inl ⟨row, List.mem_of_find?_eq_some found, about.1, same.2⟩⟩
  · rename_i frozen
    obtain ⟨appends, found, origin⟩ := appendLifecycle_ok done
    refine ⟨booked.appends appends (Option.isSome_iff_ne_none.mpr frozen) fun receipt member' ack => ?_, appends.later,
      .inr ?_⟩
    · obtain old | about := origin receipt member'
      · exact .inl old
      · exact .inr ⟨event, member, about.1.symm, told⟩
    · obtain ⟨receipt, member', about, kind, status⟩ := found
      exact ⟨receipt, member', kind, about, status⟩

theorem Booked.prepared (booked : j.Booked) (preparation : List PreparationReceipt) :
    (j.prepared preparation).Booked := by
  unfold Journal.prepared
  split
  · rename_i preparing
    obtain ⟨once, own, late, lateOnce, acks, numbered, early, fenced, frozen⟩ := booked
    refine ⟨once, own, late, lateOnce, acks, ⟨numbered.once, numbered.sequences, numbered.count, numbered.digests⟩,
      fun _ => early (.inl preparing), nofun, fun state => ?_⟩
    obtain state | state := state
    · cases state
    · cases state
  · exact booked

/-- A recording that is not fenced yet is fenced at its events. -/
theorem Booked.barred (booked : j.Booked) (early : j.row.state = .preparing ∨ j.row.state = .recording)
    (offsetMs : Int) (reason : Option String) : (j.barred offsetMs reason).Booked where
  once := booked.once
  own := booked.own
  late := booked.late
  lateOnce := booked.lateOnce
  acks := booked.acks
  numbered := ⟨booked.numbered.once, booked.numbered.sequences, booked.numbered.count, booked.numbered.digests⟩
  early state := by
    obtain state | state := state
    · cases state
    · cases state
  fenced _ := ⟨rfl, (booked.early early).2.1, (booked.early early).2.2.1⟩
  frozen state := by
    obtain state | state := state
    · cases state
    · cases state

theorem insertFrame_sameInputs {digest path mimeType : String} {bytes : Int} {timing : Timing}
    (done : j.insertFrame digest path bytes mimeType timing = .ok j') : j.SameInputs j' := by
  simp only [insertFrame, bind_eq_ok, require_eq_ok, pure_eq_ok] at done
  obtain ⟨-, -, -, -, rfl⟩ := done
  exact ⟨rfl, rfl, rfl, rfl, rfl, rfl, rfl, rfl⟩

theorem attachVideo_sameInputs {checked : List MediaRow} {incompleteReason manifest : Option String}
    (done : j.attachVideo checked incompleteReason manifest = .ok j') : j.SameInputs j' := by
  simp only [attachVideo, bind_eq_ok, require_eq_ok, pure_eq_ok] at done
  obtain ⟨-, -, -, -, -, -, -, -, -, -, rfl⟩ := done
  exact ⟨rfl, rfl, rfl, rfl, rfl, rfl, rfl, rfl⟩

/-- The recording as `_freeze_id` freezes it, before the receipts that follow. -/
def withOriginal (j : Journal) (state : State) (original : OriginalEvidence) (digest objectDigest : String) :
    Journal :=
  { j with row := { j.row with
      state
      original := some original
      recordingDigest := some digest
      originalObjectDigest := some objectDigest } }

/-- A recording that is frozen, once its late receipts are behind its original. -/
theorem Booked.cleared (booked : j.Booked) {f : Journal} {state : State} {original : OriginalEvidence}
    {digest objectDigest : String} (finalizing : j.row.state = .finalizing) (frozen : state.Frozen)
    (events : original.events = j.frozenEvents) (at_f : f = j.withOriginal state original digest objectDigest)
    (appends : f.Appends j')
    (moved : ∀ row ∈ j.pending, ∃ receipt ∈ j'.lifecycle, receipt.operationId = row.operationId ∧
      receipt.kind = row.kind ∧ receipt.status = row.status)
    (origin : ∀ receipt ∈ j'.lifecycle, receipt.kind = .ack →
      ∃ row ∈ j.pending, receipt.operationId = row.operationId) :
    ({ j' with pending := [] } : Journal).Booked ∧
      ∀ receipt, j.Files receipt → ({ j' with pending := [] } : Journal).Files receipt := by
  obtain ⟨barrier, open_, -⟩ := booked.fenced finalizing
  have behind := booked.none_behind open_
  have later := appends.later
  have same_events : j'.events = j.events := by rw [later.events, at_f, withOriginal]
  have same_state : j'.row.state = state := by rw [later.state, at_f, withOriginal]
  have same_barrier : j'.row.barrierSequence = j.row.barrierSequence := by rw [later.barrier, at_f, withOriginal]
  have same_digest : j'.row.recordingDigest = some digest := by rw [later.digest, at_f, withOriginal]
  have same_original : j'.row.original = some original := by rw [later.original, at_f, withOriginal]
  have unfrozen : ¬ (state = .preparing ∨ state = .recording ∨ state = .finalizing) := by
    obtain rfl | rfl := frozen
    · decide
    · decide
  have numbered : f.Numbered := by
    obtain ⟨once, sequences, count, -⟩ := booked.numbered
    refine ⟨?_, ?_, ?_, ?_⟩
    · rw [at_f]
      exact once
    · rw [at_f]
      exact sequences
    · rw [at_f]
      exact count
    · rw [at_f]
      exact fun receipt member => absurd (show receipt ∈ j.lifecycle from member) (by rw [behind]; exact List.not_mem_nil)
  refine ⟨⟨?_, ?_, List.forall_mem_nil _, List.nodup_nil, fun receipt member ack => ?_, ?_, fun early => ?_,
    fun fenced => ?_, fun _ => ⟨?_, rfl, original, same_original, ?_, ?_⟩⟩, fun receipt files => ?_⟩
  · dsimp only
    rw [same_events]
    exact booked.once
  · dsimp only
    rw [same_events]
    exact booked.own
  · obtain ⟨row, member', about⟩ := origin receipt member ack
    obtain ⟨-, event, member'', about', told⟩ := booked.late row member'
    dsimp only
    rw [same_events]
    exact ⟨event, member'', about'.trans about.symm, told⟩
  · have appended := appends.numbered numbered
    exact ⟨appended.once, appended.sequences, appended.count, appended.digests⟩
  · dsimp only at early
    rw [same_state] at early
    exact absurd (early.imp_right .inl) unfrozen
  · dsimp only at fenced
    rw [same_state] at fenced
    exact absurd (.inr (.inr fenced)) unfrozen
  · dsimp only
    rw [same_digest]
    rfl
  · rw [events, frozenEvents, frozenEvents]
    dsimp only
    rw [same_events, same_barrier]
  · dsimp only
    rw [same_barrier, same_events]
    exact barrier
  · obtain ⟨event, member, about, kept⟩ := files
    refine ⟨event, same_events ▸ member, about, kept.imp_right fun ⟨told, late⟩ => ⟨told, .inr ?_⟩⟩
    obtain ⟨row, member', about', status⟩ | ⟨ack, member', -⟩ := late
    · obtain ⟨found, member'', same, kind, same_status⟩ := moved row member'
      exact ⟨found, member'', kind.trans (booked.late row member').1, same.trans about', same_status.trans status⟩
    · rw [behind] at member'
      cases member'

/-- A recording that is fenced and has no original gets one that tells of its events. -/
theorem Booked.commitOriginal (booked : j.Booked) {original : OriginalEvidence} {digest objectDigest : String}
    {recovery : Bool} (past : ¬ (j.row.state = .preparing ∨ j.row.state = .recording))
    (events : original.events = j.frozenEvents)
    (done : j.commitOriginal original digest objectDigest recovery = .ok j') :
    j'.Booked ∧ (∀ receipt, j.Files receipt → j'.Files receipt) ∧ j'.events = j.events ∧
      j'.row.barrierSequence = j.row.barrierSequence ∧ j.lifecycle <+: j'.lifecycle ∧ j'.row.state.Frozen := by
  unfold Journal.commitOriginal at done
  split at done
  · rename_i open_
    have finalizing : j.row.state = .finalizing := booked.finalizing past open_
    simp only [if_pos finalizing, bind_eq_ok] at done
    obtain ⟨stopped, first, moved, second, done⟩ := done
    generalize hs : (if (recovery || !original.interruptions.isEmpty || !original.unknowns.isEmpty) = true
            then State.frozenIncomplete else .frozenComplete) = state at first
    have frozen : state.Frozen := by
      subst hs
      split
      · exact .inr rfl
      · exact .inl rfl
    have behind := booked.none_behind open_
    obtain ⟨appends, -, origin⟩ := appendLifecycle_ok first
    obtain ⟨appends', found, origin'⟩ := appendPending_ok second
    have pending : stopped.pending = j.pending := by rw [appends.same]
    obtain ⟨cleared, files⟩ := booked.cleared finalizing frozen events rfl (appends.trans appends') (pending ▸ found)
      fun receipt member ack => by
        obtain old | ⟨row, member', about⟩ := origin' receipt member
        · obtain old | about := origin receipt old
          · rw [behind] at old
            cases old
          · rw [about.2] at ack
            cases ack
        · exact ⟨row, pending ▸ member', about.1⟩
    have later := (appends.trans appends').later
    have same_state : moved.row.state = state := later.state
    split at done
    · obtain ⟨appended, -, origin''⟩ := appendLifecycle_ok done
      have last := appended.later
      refine ⟨cleared.appends appended ?_ fun receipt member ack => ?_, fun receipt kept => last.files (files receipt kept),
        last.events.trans later.events, last.barrier.trans later.barrier, later.lifecycle.trans last.lifecycle, ?_⟩
      · dsimp only
        rw [later.digest]
        rfl
      · obtain old | about := origin'' receipt member
        · exact .inl old
        · rw [about.2] at ack
          cases ack
      · rw [last.state, same_state]
        exact frozen
    · cases done
      exact ⟨cleared, files, later.events, later.barrier, later.lifecycle, same_state ▸ frozen⟩
  · rename_i closed
    cases done
    refine ⟨booked, fun _ => id, rfl, rfl, List.prefix_rfl, ?_⟩
    cases state : j.row.state with
    | preparing => exact absurd (.inl state) past
    | recording => exact absurd (.inr state) past
    | finalizing => exact absurd (booked.fenced state).2.1 closed
    | frozenComplete => exact .inl rfl
    | frozenIncomplete => exact .inr rfl

end Journal

/-- The original that a freeze has read. -/
def Call.original? : Call → Option OriginalEvidence
  | freezing original .. | published original .. => some original
  | _ => none

theorem Call.holds_of_original {call : Call} {original : OriginalEvidence} (reads : call.original? = some original) :
    call.Holds := by
  cases call with
  | freezing | published => trivial
  | _ => cases reads

namespace World

variable {host : Host} {w w' : World}

/-- The state is past the stop barrier. -/
def Past (state : State) : Prop := ¬ (state = .preparing ∨ state = .recording)

instance : DecidablePred Past := fun _ => inferInstanceAs (Decidable (¬ _))

/-- What a recording, its freezes and the receipts that it has returned have to do with each other. -/
structure Booked (w : World) : Prop where
  journal : w.journal.Booked
  begun : w.session.isSome → w.journal.row.state ≠ .preparing
  filed : ∀ returned ∈ w.receipts, w.journal.Files returned.receipt
  logged : ∀ event ∈ w.journal.events, event.receipt.isSome →
    ∃ returned ∈ w.receipts, returned.receipt.operationId = event.operationId
  first : ∀ operationId returned, (w.receipts.find? (·.receipt.operationId = operationId)) = some returned →
    ∀ event ∈ w.journal.events, event.operationId = operationId → (returned.onTime = true ↔ event.receipt.isSome)
  freezing : ∀ id call original, w.calls.get? id = some call → call.original? = some original →
    Past w.journal.row.state ∧ original.events = w.journal.frozenEvents

/-- The events are the same up to what does not concern their receipts, but for new ones. -/
def SameEvents (j j' : Journal) : Prop :=
  ∀ event ∈ j'.events, (∃ old ∈ j.events, old.operationId = event.operationId ∧
    old.receipt.isSome = event.receipt.isSome) ∨ event.receipt = none ∧ ∀ old ∈ j.events, old.operationId ≠ event.operationId

theorem SameEvents.of_eq {j j' : Journal} (same : j'.events = j.events) : SameEvents j j' := fun event member =>
  .inl ⟨event, same ▸ member, rfl, rfl⟩

/-- A step that returns no receipt. -/
theorem Booked.step (booked : w.Booked) (journal : w'.journal.Booked)
    (begun : w'.session.isSome → w'.journal.row.state ≠ .preparing)
    (files : ∀ receipt, w.journal.Files receipt → w'.journal.Files receipt) (receipts : w'.receipts = w.receipts)
    (events : SameEvents w.journal w'.journal)
    (freezing : ∀ id call original, w'.calls.get? id = some call → call.original? = some original →
      Past w'.journal.row.state ∧ original.events = w'.journal.frozenEvents) : w'.Booked where
  journal := journal
  begun := begun
  filed returned member := files _ (booked.filed returned (receipts ▸ member))
  logged event member told := by
    rw [receipts]
    obtain ⟨old, member', about, same⟩ | ⟨none_, -⟩ := events event member
    · obtain ⟨returned, found, about'⟩ := booked.logged old member' (same ▸ told)
      exact ⟨returned, found, about'.trans about⟩
    · rw [none_] at told
      cases told
  first operationId returned found event member about := by
    rw [receipts] at found
    obtain ⟨old, member', about', same⟩ | ⟨-, new⟩ := events event member
    · rw [← same]
      exact booked.first operationId returned found old member' (about'.trans about)
    · obtain ⟨old, member', about', -⟩ := booked.filed returned (List.mem_of_find?_eq_some found)
      have named : returned.receipt.operationId = operationId := by simpa using List.find?_some found
      exact absurd (about'.trans (named.trans about.symm)) (new old member')
  freezing := freezing

/-- A step that leaves the inputs alone and reads no new original. -/
theorem Booked.same (booked : w.Booked) (same : w.journal.SameInputs w'.journal) (receipts : w'.receipts = w.receipts)
    (session : w'.session.isSome → w.session.isSome)
    (calls : ∀ id call original, w'.calls.get? id = some call → call.original? = some original →
      ∃ id call, w.calls.get? id = some call ∧ call.original? = some original) : w'.Booked := by
  refine booked.step (booked.journal.same same) (fun alive => ?_) (fun _ => same.files) receipts
    (.of_eq same.events) fun id call original found reads => ?_
  · rw [same.state]
    exact booked.begun (session alive)
  · obtain ⟨id, call, found, reads⟩ := calls id call original found reads
    rw [same.state, same.frozenEvents]
    exact booked.freezing id call original found reads

/-- A step that does only this to the calls reads no new original. -/
theorem idle_call {id : Nat} {new : Call} (idle : new.original? = none) :
    ∀ id' call original, (w.calls.set id new).get? id' = some call → call.original? = some original →
      ∃ id call, w.calls.get? id = some call ∧ call.original? = some original := by
  intro id' call original found reads
  obtain ⟨-, rfl⟩ | ⟨-, old⟩ := Dict.get?_set_some found
  · rw [idle] at reads
    cases reads
  · exact ⟨id', call, old, reads⟩

theorem idle_leave {id : Nat} :
    ∀ id' call original, (w.calls.erase id).get? id' = some call → call.original? = some original →
      ∃ id call, w.calls.get? id = some call ∧ call.original? = some original := by
  intro id' call original found reads
  rw [Dict.get?_erase] at found
  split at found
  · cases found
  · exact ⟨id', call, found, reads⟩

theorem Booked.quiet (booked : w.Booked) (quiet : w.Quiet w') : w'.Booked :=
  booked.same quiet.journal.sameInputs quiet.receipts (fun alive => quiet.session ▸ alive)
    fun id call _ found reads => ⟨id, call, (quiet.calls id call (call.holds_of_original reads)).mp found, reads⟩

theorem Booked.call (booked : w.Booked) {id : Nat} {call : Call} (idle : call.original? = none) :
    (w.call id call).Booked := booked.same (Journal.Quiet.refl).sameInputs rfl (fun alive => alive) (idle_call idle)

theorem Booked.leave (booked : w.Booked) (id : Nat) : (w.leave id).Booked :=
  booked.same (Journal.Quiet.refl).sameInputs rfl (fun alive => alive) idle_leave

theorem Booked.put (booked : w.Booked) {j : Journal} (same : w.journal.SameInputs j) : (w.put j).Booked :=
  booked.same same rfl (fun alive => alive) fun id call _ found reads => ⟨id, call, found, reads⟩

theorem Booked.pins (booked : w.Booked) (pins : Finset String) : ({ w with pins } : World).Booked :=
  booked.same (Journal.Quiet.refl).sameInputs rfl (fun alive => alive) fun id call _ found reads =>
    ⟨id, call, found, reads⟩

theorem Booked.opened (booked : w.Booked) (opened : Bool) : ({ w with opened } : World).Booked :=
  booked.same (Journal.Quiet.refl).sameInputs rfl (fun alive => alive) fun id call _ found reads =>
    ⟨id, call, found, reads⟩

theorem Booked.gap (booked : w.Booked) (reason : String) (offsetMs : Option Int) : (w.gap reason offsetMs).Booked :=
  booked.quiet (.gap ..)

theorem Booked.endCollection (booked : w.Booked) (id : Nat) : (w.endCollection id).Booked :=
  booked.same (Journal.Quiet.refl).sameInputs rfl (fun alive => Option.isSome_map.symm.trans alive) idle_leave

/-- While the recording admits inputs, none of them is being frozen. -/
theorem Booked.unread (booked : w.Booked) (admitting : w.journal.Admitting) {id : Nat} {call : Call}
    {original : OriginalEvidence} (found : w.calls.get? id = some call) : call.original? ≠ some original :=
  fun reads => (booked.freezing id call original found reads).1 (.inr admitting.1)

theorem Booked.prepare (booked : w.Booked) (id : Nat) : (w.prepare id).Booked := by
  unfold World.prepare
  split
  · rename_i registration preparation at_id
    have files : ∀ receipt, w.journal.Files receipt → (w.journal.prepared preparation).Files receipt := by
      unfold Journal.prepared
      split
      · exact fun _ files => files
      · exact fun _ files => files
    have same_events : (w.journal.prepared preparation).events = w.journal.events := by
      unfold Journal.prepared
      split
      · rfl
      · rfl
    have begun : (w.journal.prepared preparation).row.state ≠ .preparing := by
      unfold Journal.prepared
      split
      · nofun
      · assumption
    refine booked.step (booked.journal.prepared preparation) (fun _ => begun) files rfl (.of_eq same_events)
      fun id' call original found reads => ?_
    obtain ⟨id', call, found, reads⟩ := idle_leave id' call original found reads
    have frozen := booked.freezing id' call original found reads
    dsimp only [World.leave, World.put]
    rw [Journal.prepared, if_neg fun preparing => frozen.1 (.inl preparing)]
    exact frozen
  · exact booked

theorem Booked.admitInput (booked : w.Booked) (operationId : String) (generation : Int)
    (providerIncarnation : String) (input : Input) (sample : Option Sample) :
    (w.admitInput host operationId generation providerIncarnation input sample).Booked := by
  unfold World.admitInput
  split
  · split
    · split
      · rename_i stamp _
        split
        · unfold World.commit
          split
          · rename_i j done
            obtain ⟨journal, admitting, row, files, event, same, none_, new⟩ := booked.journal.admitInput done
            refine booked.step journal (fun alive => ?_) files rfl (fun event' member => ?_)
              fun id call original found reads => absurd reads (booked.unread admitting found)
            · dsimp only [World.put]
              rw [row]
              exact booked.begun alive
            · rw [World.put, same] at member
              obtain old | fresh := List.mem_append.mp member
              · exact .inl ⟨event', old, rfl, rfl⟩
              · rw [List.mem_singleton.mp fresh]
                exact .inr ⟨none_, new⟩
          · exact booked
        · exact booked
      · exact booked.gap ..
    · exact booked
  · exact booked

theorem Booked.markDispatched (booked : w.Booked) (operationId : String) : (w.markDispatched operationId).Booked := by
  unfold World.markDispatched
  split
  · unfold World.commit
    split
    · rename_i j done
      obtain ⟨journal, admitting, rfl⟩ := booked.journal.markDispatched done
      refine booked.step journal booked.begun (fun receipt files => ?_) rfl (fun event member => ?_)
        fun id call original found reads => absurd reads (booked.unread admitting found)
      · obtain ⟨event, member, about, kept⟩ := files
        refine ⟨_, Journal.mem_updateEvent.mpr ⟨event, member, rfl⟩, ?_⟩
        split
        · exact ⟨about, kept⟩
        · exact ⟨about, kept⟩
      · obtain ⟨old, member', rfl⟩ := Journal.mem_updateEvent.mp member
        refine .inl ⟨old, member', ?_⟩
        split
        · exact ⟨rfl, rfl⟩
        · exact ⟨rfl, rfl⟩
    · exact booked
  · exact booked

/-- A receipt of an operation that none has been returned for is the first of it. -/
theorem find_append {receipts : List Returned} {new : Returned} {operationId : String} {returned : Returned}
    (found : (receipts ++ [new]).find? (·.receipt.operationId = operationId) = some returned) :
    receipts.find? (·.receipt.operationId = operationId) = some returned ∨
      receipts.find? (·.receipt.operationId = operationId) = none ∧ returned = new ∧
        new.receipt.operationId = operationId := by
  rw [List.find?_append] at found
  cases old : receipts.find? (·.receipt.operationId = operationId) with
  | some first =>
    rw [old] at found
    exact .inl found
  | none =>
    rw [old, Option.none_or] at found
    obtain rfl := List.mem_singleton.mp (List.mem_of_find?_eq_some found)
    exact .inr ⟨rfl, rfl, by simpa using List.find?_some found⟩

/-- A step that returns a receipt, which is filed; `onTime` is right of the first of its operation. -/
theorem Booked.return_ (booked : w.Booked) {j : Journal} {receipt : InputReceipt} {onTime : Bool}
    (journal : j.Booked) (begun : w.session.isSome → j.row.state ≠ .preparing)
    (files : ∀ receipt, w.journal.Files receipt → j.Files receipt) (filed : j.Files receipt)
    (events : ∀ event ∈ j.events, ∃ old ∈ w.journal.events, old.operationId = event.operationId ∧
      (event.operationId = receipt.operationId ∨ old.receipt.isSome = event.receipt.isSome))
    (old : ∀ event ∈ j.events, event.operationId = receipt.operationId → ∀ returned,
      (w.receipts.find? (·.receipt.operationId = receipt.operationId)) = some returned →
        (returned.onTime = true ↔ event.receipt.isSome))
    (new : (w.receipts.find? (·.receipt.operationId = receipt.operationId)) = none →
      ∀ event ∈ j.events, event.operationId = receipt.operationId → (onTime = true ↔ event.receipt.isSome))
    (freezing : ∀ id call original, w.calls.get? id = some call → call.original? = some original →
      Past j.row.state ∧ original.events = j.frozenEvents) :
    ({ w.put j with receipts := w.receipts ++ [⟨receipt, onTime⟩] } : World).Booked where
  journal := journal
  begun := begun
  filed returned member := by
    obtain before | fresh := List.mem_append.mp member
    · exact files _ (booked.filed returned before)
    · rw [List.mem_singleton.mp fresh]
      exact filed
  logged event member told := by
    obtain ⟨before, member', about, same⟩ := events event member
    obtain same | same := same
    · exact ⟨_, List.mem_append_right _ (List.mem_singleton_self _), same.symm⟩
    · obtain ⟨returned, found, about'⟩ := booked.logged before member' (same ▸ told)
      exact ⟨returned, List.mem_append_left _ found, about'.trans about⟩
  first operationId returned found event member about := by
    obtain found | ⟨missing, rfl, named⟩ := find_append found
    · obtain ⟨before, member', about', same⟩ := events event member
      obtain same | same := same
      · exact old event member same returned (by rw [← same, about]; exact found)
      · rw [← same]
        exact booked.first operationId returned found before member' (about'.trans about)
    · exact new (named ▸ missing) event member (about.trans named.symm)
  freezing := freezing

/-- The receipt of an input of a recording that still admits inputs. -/
theorem Booked.return_onTime (booked : w.Booked) {event : EventRow} {operationId : String} {status : Dispatch}
    {receipt : InputReceipt} (member : event ∈ w.journal.events) (about : event.operationId = operationId)
    (named : receipt.operationId = operationId) (told : event.receipt = none) (admitting : w.journal.Admitting)
    (only : ∀ other ∈ w.journal.events, other.operationId = receipt.operationId → other = event) :
    ({ w.put (w.journal.updateEvent operationId fun event =>
        { event with dispatch := status, receipt := some receipt }) with
      receipts := w.receipts ++ [⟨receipt, decide w.journal.Admitting⟩] } : World).Booked := by
  obtain ⟨pending, lifecycle⟩ := booked.journal.of_admitting admitting
  have with_event : ∀ kept, w.journal.Files kept → ∃ other ∈ w.journal.events,
      other.operationId = kept.operationId ∧ other.receipt = some kept := by
    rintro kept ⟨other, member', about', held | ⟨-, ⟨row, found, -⟩ | ⟨ack, found, -⟩⟩⟩
    · exact ⟨other, member', about', held⟩
    · rw [pending] at found
      cases found
    · rw [lifecycle] at found
      cases found
  refine booked.return_ (booked.journal.updateEvent admitting (fun _ => rfl) fun _ _ _ kept held => ?_) booked.begun
    (fun kept files => ?_) ⟨_, Journal.mem_updateEvent.mpr ⟨event, member, rfl⟩, ?_⟩ (fun other member' => ?_)
    (fun _ _ _ returned found => ?_) (fun _ other member' same => ?_)
    fun id call original found reads => absurd reads (booked.unread admitting found)
  · cases held
    exact named
  · obtain ⟨other, member', about', held⟩ := with_event kept files
    refine ⟨other, Journal.mem_updateEvent.mpr ⟨other, member', ?_⟩, about', .inl held⟩
    rw [if_neg]
    intro same
    obtain rfl := only other member' (same.trans named.symm)
    rw [told] at held
    cases held
  · rw [if_pos about]
    exact ⟨about.trans named.symm, .inl rfl⟩
  · obtain ⟨old, member'', rfl⟩ := Journal.mem_updateEvent.mp member'
    refine ⟨old, member'', ?_⟩
    split
    · rename_i same
      exact ⟨rfl, .inl (same.trans named.symm)⟩
    · exact ⟨rfl, .inr rfl⟩
  · obtain ⟨other, member', about', held⟩ := with_event _ (booked.filed returned (List.mem_of_find?_eq_some found))
    have same : returned.receipt.operationId = receipt.operationId := by simpa using List.find?_some found
    obtain rfl := only other member' (about'.trans same)
    rw [told] at held
    cases held
  · obtain ⟨old, member'', rfl⟩ := Journal.mem_updateEvent.mp member'
    split at same
    · rename_i at_old
      rw [if_pos at_old]
      exact ⟨fun _ => rfl, fun _ => decide_eq_true admitting⟩
    · rename_i other
      exact absurd (same.trans named) other

/-- The receipt of an input of a recording that is past its barrier. -/
theorem Booked.return_late (booked : w.Booked) {event : EventRow} {operationId : String} {status : Dispatch}
    {receipt : InputReceipt} {j : Journal} (alive : w.session.isSome) (member : event ∈ w.journal.events)
    (about : event.operationId = operationId) (named : receipt.operationId = operationId)
    (same_status : receipt.status = status) (told : event.receipt = none) (closed : ¬ w.journal.Admitting)
    (only : ∀ other ∈ w.journal.events, other.operationId = receipt.operationId → other = event)
    (late : w.journal.lateReceipt event status receipt.observedAtMs = .ok j) :
    ({ w.put j with receipts := w.receipts ++ [⟨receipt, decide w.journal.Admitting⟩] } : World).Booked := by
  have past : Past w.journal.row.state := by
    rintro (state | state)
    · exact booked.begun alive state
    · exact closed ⟨state, (booked.journal.early (.inr state)).1⟩
  obtain ⟨journal, later, found⟩ := booked.journal.lateReceipt member told past late
  rw [about.trans named.symm, ← same_status] at found
  refine booked.return_ journal (fun _ => ?_) (fun _ => later.files)
    ⟨event, later.events ▸ member, about.trans named.symm, .inr ⟨told, found⟩⟩ (fun other member' => ?_)
    (fun other member' same returned at_first => ?_) (fun _ other member' same => ?_) fun id call original at_id reads => ?_
  · rw [later.state]
    exact booked.begun alive
  · exact ⟨other, later.events ▸ member', rfl, .inr rfl⟩
  · exact booked.first _ returned at_first other (later.events ▸ member') same
  · rw [only other (later.events ▸ member') same, told]
    exact ⟨fun onTime => absurd (of_decide_eq_true onTime) closed, nofun⟩
  · rw [later.state, Journal.frozenEvents, later.events, later.barrier]
    exact booked.freezing id call original at_id reads

theorem Booked.recordReceipt (booked : w.Booked) (operationId : String) (status : Dispatch)
    (errorCode : Option String) (sample : Option Sample) :
    (w.recordReceipt operationId status errorCode sample).Booked := by
  unfold World.recordReceipt
  split
  · rename_i called
    split
    · split
      · rename_i stamp _ j receipt done
        obtain ⟨event, member, about, named, same_status, -, how⟩ := booked.journal.recordReceipt_ok done
        have only : ∀ other ∈ w.journal.events, other.operationId = receipt.operationId → other = event :=
          fun other member' same => List.inj_on_of_nodup_map booked.journal.once member' member
            (same.trans (named.trans about.symm))
        obtain ⟨told, rfl⟩ | ⟨told, admitting, rfl⟩ | ⟨told, closed, late⟩ := how
        · refine booked.return_ booked.journal booked.begun (fun _ files => files)
            ⟨event, member, about.trans named.symm, .inl told⟩ (fun other member' => ⟨other, member', rfl, .inr rfl⟩)
            (fun other member' same returned found => booked.first _ returned found other member' same)
            (fun missing other member' same => ?_) booked.freezing
          obtain ⟨returned, found, same'⟩ := booked.logged event member (by rw [told]; rfl)
          have absent := List.find?_eq_none.mp missing returned found
          exact absurd (decide_eq_true (same'.trans (about.trans named.symm))) absent
        · exact booked.return_onTime member about named told admitting only
        · exact booked.return_late called.1 member about named same_status told closed only late
      · exact booked
    · exact booked.gap ..
  · exact booked

theorem Booked.pinFrame (booked : w.Booked) (id : Nat) (pinned : Bool) : (w.pinFrame id pinned).Booked := by
  unfold World.pinFrame
  split
  · split
    · exact (booked.pins _).call rfl
    · exact (booked.gap ..).endCollection id
  · exact booked

theorem Booked.insertFrame (booked : w.Booked) (id : Nat) (writable : Bool) :
    (w.insertFrame id writable).Booked := by
  unfold World.insertFrame
  split
  · split
    · rename_i done
      exact (booked.put (Journal.insertFrame_sameInputs done)).call rfl
    · exact booked.call rfl
  · exact booked

theorem Booked.closeFramePin (booked : w.Booked) (id : Nat) (unpinned : Bool) :
    (w.closeFramePin id unpinned).Booked := by
  unfold World.closeFramePin
  split
  · split
    · exact (booked.pins _).endCollection id
    · exact booked.endCollection id
  · exact booked

/-- A recording is fenced, and reads its originals only then. -/
theorem Booked.barred (booked : w.Booked) (early : w.journal.row.state = .preparing ∨ w.journal.row.state = .recording)
    (offsetMs : Int) (reason : Option String) : (w.put (w.journal.barred offsetMs reason)).Booked :=
  booked.step (booked.journal.barred early offsetMs reason) (fun _ => nofun) (fun _ files => files) rfl (.of_eq rfl)
    fun id call original found reads => absurd early (booked.freezing id call original found reads).1

theorem Booked.session (booked : w.Booked) {s : Session} (found : w.session = some s) (s' : Session) :
    ({ w with session := some s' } : World).Booked :=
  booked.same (Journal.Quiet.refl).sameInputs rfl (fun _ => by rw [found]; rfl) fun id call _ found reads =>
    ⟨id, call, found, reads⟩

theorem Booked.stopBarrier (booked : w.Booked) (reason : Option String) (sample : Option Sample) :
    (w.stopBarrier reason sample).Booked := by
  have stopped : ∀ (w : World) (offset : Option Int) (reason : Option String), w.Booked →
      (w.commit (w.journal.stopBarrier offset reason)).Booked := by
    intro w offset reason booked
    unfold World.commit
    split
    · rename_i j done
      unfold Journal.stopBarrier at done
      split at done
      · cases done
        exact booked
      · simp only [bind_eq_ok, require_eq_ok, pure_eq_ok] at done
        obtain ⟨-, recording, rfl⟩ := done
        exact booked.barred (.inr recording) ..
    · exact booked
  unfold World.stopBarrier
  split
  · rename_i s found
    split
    · dsimp only
      split
      · exact stopped _ _ _ (booked.session found _)
      · exact stopped _ _ _ (booked.session found _)
    · exact booked
  · exact booked

theorem Booked.attachVideo (booked : w.Booked) (id : Nat) (rows : List MediaRow)
    (incompleteReason manifest : Option String) : (w.attachVideo id rows incompleteReason manifest).Booked := by
  unfold World.attachVideo
  split
  · exact booked.call rfl
  · exact booked

theorem Booked.pinVideo (booked : w.Booked) (id : Nat) (pinned : Bool) : (w.pinVideo id pinned).Booked := by
  unfold World.pinVideo
  split
  · split
    · split
      · exact (booked.pins _).call rfl
      · exact booked.call rfl
    · exact booked
  · exact booked

theorem Booked.insertVideo (booked : w.Booked) (id : Nat) (writable : Bool) :
    (w.insertVideo id writable).Booked := by
  unfold World.insertVideo
  split
  · split
    · split
      · rename_i done
        exact (booked.put (Journal.attachVideo_sameInputs done)).leave id
      · exact booked.call rfl
    · exact booked
  · exact booked

theorem Booked.closeVideoPin (booked : w.Booked) (id : Nat) (unpinned : Bool) :
    (w.closeVideoPin id unpinned).Booked := by
  unfold World.closeVideoPin
  split
  · split
    · exact (booked.pins _).call rfl
    · exact booked.call rfl
  · exact booked.leave id
  · exact booked

/-- A freeze reads the events up to the barrier. -/
theorem Booked.startFreeze (booked : w.Booked) (id : Nat) (recovery : Bool) :
    (w.startFreeze host id recovery).Booked := by
  unfold World.startFreeze
  split
  · rename_i original body digest made
    split
    · simp only [Journal.freezable, bind_eq_ok, require_eq_ok, pure_eq_ok, Prod.mk.injEq] at made
      obtain ⟨-, finalizing, -, -, -, -, -, -, -, -, -, -, -, -, rfl, -, -⟩ := made
      refine booked.step booked.journal booked.begun (fun _ files => files) rfl (.of_eq rfl)
        fun id' call original found reads => ?_
      obtain ⟨-, rfl⟩ | ⟨-, old⟩ := Dict.get?_set_some found
      · cases reads
        refine ⟨?_, rfl⟩
        dsimp only [World.call]
        rw [finalizing]
        rintro (state | state)
        · cases state
        · cases state
      · exact booked.freezing id' call original old reads
    · exact booked
  · exact booked

theorem Booked.publishOriginal (booked : w.Booked) (id : Nat) (stored : Bool) :
    (w.publishOriginal id stored).Booked := by
  unfold World.publishOriginal
  split
  · rename_i original body digest recovery at_id
    split
    · refine booked.same (Journal.Quiet.refl).sameInputs rfl (fun alive => alive) fun id' call found at_id' reads => ?_
      obtain ⟨-, rfl⟩ | ⟨-, old⟩ := Dict.get?_set_some at_id'
      · exact ⟨id, _, at_id, reads⟩
      · exact ⟨id', call, old, reads⟩
    · exact booked.leave id
  · exact booked

theorem Booked.commitOriginal (booked : w.Booked) (id : Nat) (writable : Bool) :
    (w.commitOriginal id writable).Booked := by
  unfold World.commitOriginal
  split
  · rename_i original digest recovery at_id
    split
    · rename_i j done
      obtain ⟨past, events⟩ := booked.freezing id _ original at_id rfl
      obtain ⟨journal, files, same, barrier, -, frozen⟩ := booked.journal.commitOriginal past events done
      have after : Past j.row.state := by
        obtain state | state := frozen
        · rw [state]
          decide
        · rw [state]
          decide
      refine booked.step journal (fun _ preparing => after (.inl preparing)) files rfl (.of_eq same)
        fun id' call read found reads => ?_
      refine ⟨after, ?_⟩
      rw [Journal.frozenEvents]
      dsimp only [World.call, World.put]
      rw [same, barrier]
      obtain ⟨-, rfl⟩ | ⟨-, old⟩ := Dict.get?_set_some found
      · cases reads
      · exact (booked.freezing id' call read old reads).2
    · exact booked.leave id
  · exact booked

theorem Booked.unpinRecording (booked : w.Booked) (id : Nat) (unpinned : Bool) :
    (w.unpinRecording id unpinned).Booked := by
  unfold World.unpinRecording
  split
  · split
    · exact ((booked.pins _).leave id).opened _
    · exact (booked.leave id).opened _
  · exact booked

theorem Booked.appendLifecycle (booked : w.Booked) (operationId : String) (generation : Int) (kind : LifecycleKind)
    (status : LifecycleStatus) (observedAtMs : Int) :
    (w.appendLifecycle operationId generation kind status observedAtMs).Booked := by
  unfold World.appendLifecycle
  split
  · rename_i asked
    obtain ⟨-, -, -, kinds, -, -, digest, -⟩ := asked
    unfold World.commit
    split
    · rename_i j done
      obtain ⟨appends, -, origin⟩ := Journal.appendLifecycle_ok done
      have later := appends.later
      refine booked.step (booked.journal.appends appends digest fun receipt member ack => ?_) (fun alive => ?_)
        (fun _ => later.files) rfl (.of_eq later.events) fun id call original found reads => ?_
      · obtain old | about := origin receipt member
        · exact .inl old
        · obtain rfl | rfl | rfl := kinds
          all_goals
            rw [about.2] at ack
            cases ack
      · dsimp only [World.put]
        rw [later.state]
        exact booked.begun alive
      · dsimp only [World.put]
        rw [later.state, Journal.frozenEvents, later.events, later.barrier]
        exact booked.freezing id call original found reads
    · exact booked
  · exact booked

theorem Booked.crash (booked : w.Booked) : w.crash.Booked :=
  booked.same (Journal.Quiet.refl).sameInputs rfl nofun fun _ _ _ found => nomatch found

theorem Booked.reopen (booked : w.Booked) (id : Nat) : (w.reopen host id).Booked := by
  unfold World.reopen
  split
  · split
    · exact booked.opened _
    · rename_i unfrozen
      have recovered : (w.put w.journal.recover).Booked := by
        unfold Journal.recover
        split
        · exact booked
        · rename_i early
          refine booked.barred ?_ ..
          cases state : w.journal.row.state with
          | preparing => exact .inl rfl
          | recording => exact .inr rfl
          | finalizing => exact absurd (.inr state) early
          | frozenComplete => exact absurd (.inl (.inl state)) early
          | frozenIncomplete => exact absurd (.inl (.inr state)) early
      dsimp only
      split
      · exact recovered.opened _
      · exact recovered.startFreeze id true
  · exact booked

theorem Booked.apply (booked : w.Booked) (event : Event) : (w.apply host event).Booked := by
  cases event with
  | register | classify | declareGap | useFrameSpool | attachFrameSink | recordFrame | authorizeFrame | stampFrame
  | storeFrame | stageFrame | insertSource | sinkFrame | recordObservation | authorizeObservation
  | storeObservation | insertObservation => exact booked.quiet (apply_quiet trivial)
  | prepare id => exact booked.prepare id
  | admitInput operationId generation provider input sample => exact booked.admitInput ..
  | markDispatched operationId => exact booked.markDispatched operationId
  | recordReceipt operationId status errorCode sample => exact booked.recordReceipt ..
  | pinFrame id pinned => exact booked.pinFrame id pinned
  | insertFrame id writable => exact booked.insertFrame id writable
  | closeFramePin id unpinned => exact booked.closeFramePin id unpinned
  | stopBarrier reason sample => exact booked.stopBarrier reason sample
  | attachVideo id rows incompleteReason manifest => exact booked.attachVideo ..
  | pinVideo id pinned => exact booked.pinVideo id pinned
  | insertVideo id writable => exact booked.insertVideo id writable
  | closeVideoPin id unpinned => exact booked.closeVideoPin id unpinned
  | freeze id =>
    dsimp only [World.apply]
    unfold World.freeze
    split
    · exact booked.startFreeze id false
    · exact booked
  | freezeRecovered id =>
    dsimp only [World.apply]
    unfold World.freezeRecovered
    split
    · exact booked.startFreeze id true
    · exact booked
  | publishOriginal id stored => exact booked.publishOriginal id stored
  | commitOriginal id writable => exact booked.commitOriginal id writable
  | unpinRecording id unpinned => exact booked.unpinRecording id unpinned
  | appendLifecycle operationId generation kind status observedAtMs => exact booked.appendLifecycle ..
  | crash => exact booked.crash
  | reopen id => exact booked.reopen id

theorem Booked.run (booked : w.Booked) (events : List Event) : (w.run host events).Booked := by
  induction events generalizing w with
  | nil => exact booked
  | cons event events ih => exact ih (booked.apply event)

/-- Lifecycle receipts and returned receipts only become more. -/
structure Kept (w w' : World) : Prop where
  lifecycle : w.journal.lifecycle <+: w'.journal.lifecycle
  receipts : w.receipts <+: w'.receipts

theorem Kept.refl : w.Kept w := ⟨List.prefix_rfl, List.prefix_rfl⟩

theorem Quiet.kept (quiet : w.Quiet w') : w.Kept w' :=
  ⟨by rw [quiet.journal.lifecycle], by rw [quiet.receipts]⟩

theorem Booked.recordReceipt_kept (booked : w.Booked) (operationId : String) (status : Dispatch)
    (errorCode : Option String) (sample : Option Sample) :
    w.Kept (w.recordReceipt operationId status errorCode sample) := by
  unfold World.recordReceipt
  split
  · rename_i called
    split
    · split
      · rename_i j receipt done
        refine ⟨?_, List.prefix_append ..⟩
        obtain ⟨event, member, -, -, -, -, how⟩ := booked.journal.recordReceipt_ok done
        obtain ⟨-, rfl⟩ | ⟨-, -, rfl⟩ | ⟨told, closed, late⟩ := how
        · exact List.prefix_rfl
        · exact List.prefix_rfl
        · refine (booked.journal.lateReceipt member told ?_ late).2.1.lifecycle
          rintro (state | state)
          · exact booked.begun called.1 state
          · exact closed ⟨state, (booked.journal.early (.inr state)).1⟩
      · exact .refl
    · exact (Quiet.gap ..).kept
  · exact .refl

theorem Booked.commitOriginal_kept (booked : w.Booked) (id : Nat) (writable : Bool) :
    w.Kept (w.commitOriginal id writable) := by
  unfold World.commitOriginal
  split
  · rename_i original digest recovery at_id
    split
    · rename_i j done
      obtain ⟨past, events⟩ := booked.freezing id _ original at_id rfl
      exact ⟨(booked.journal.commitOriginal past events done).2.2.2.2.1, List.prefix_rfl⟩
    · exact ⟨List.prefix_rfl, List.prefix_rfl⟩
  · exact .refl

theorem startFreeze_kept {id : Nat} {recovery : Bool} : w.Kept (w.startFreeze host id recovery) := by
  unfold World.startFreeze
  split
  · split
    · exact ⟨List.prefix_rfl, List.prefix_rfl⟩
    · exact .refl
  · exact .refl

/-- A transaction on anything but the lifecycle receipts. -/
theorem commit_kept {result : Except String Journal}
    (same : ∀ j, result = .ok j → w.journal.lifecycle <+: j.lifecycle) : w.Kept (w.commit result) := by
  unfold World.commit
  split
  · exact ⟨same _ rfl, List.prefix_rfl⟩
  · exact .refl

theorem commit_stop_kept (w : World) (offsetMs : Option Int) (reason : Option String) :
    w.Kept (w.commit (w.journal.stopBarrier offsetMs reason)) := by
  refine commit_kept fun j done => ?_
  unfold Journal.stopBarrier at done
  split at done
  · cases done
    exact List.prefix_rfl
  · simp only [bind_eq_ok, require_eq_ok, pure_eq_ok] at done
    obtain ⟨-, -, rfl⟩ := done
    exact List.prefix_rfl

theorem Booked.apply_kept (booked : w.Booked) (event : Event) : w.Kept (w.apply host event) := by
  cases event with
  | register | classify | declareGap | useFrameSpool | attachFrameSink | recordFrame | authorizeFrame | stampFrame
  | storeFrame | stageFrame | insertSource | sinkFrame | recordObservation | authorizeObservation
  | storeObservation | insertObservation => exact Quiet.kept (apply_quiet (by trivial))
  | prepare id =>
    dsimp only [World.apply]
    unfold World.prepare Journal.prepared
    repeat' split
    all_goals exact ⟨List.prefix_rfl, List.prefix_rfl⟩
  | admitInput operationId generation provider input sample =>
    dsimp only [World.apply]
    unfold World.admitInput
    repeat' split
    · refine commit_kept fun j done => ?_
      simp only [Journal.admitInput, bind_eq_ok, require_eq_ok, pure_eq_ok] at done
      obtain ⟨-, -, -, -, -, -, -, -, -, -, rfl⟩ := done
      exact List.prefix_rfl
    · exact .refl
    · exact (Quiet.gap ..).kept
    · exact .refl
    · exact .refl
  | markDispatched operationId =>
    dsimp only [World.apply]
    unfold World.markDispatched
    split
    · refine commit_kept fun j done => ?_
      obtain ⟨-, -, rfl⟩ := booked.journal.markDispatched done
      exact List.prefix_rfl
    · exact .refl
  | recordReceipt operationId status errorCode sample => exact booked.recordReceipt_kept ..
  | pinFrame id pinned =>
    dsimp only [World.apply]
    unfold World.pinFrame
    repeat' split
    · exact ⟨List.prefix_rfl, List.prefix_rfl⟩
    · obtain ⟨lifecycle, receipts⟩ := Quiet.kept (Quiet.gap (w := w) ..)
      exact ⟨lifecycle, receipts⟩
    · exact .refl
  | insertFrame id writable =>
    dsimp only [World.apply]
    unfold World.insertFrame
    repeat' split
    · rename_i done
      exact ⟨by rw [← (Journal.insertFrame_sameInputs done).lifecycle]; exact List.prefix_rfl, List.prefix_rfl⟩
    · exact ⟨List.prefix_rfl, List.prefix_rfl⟩
    · exact .refl
  | stopBarrier reason sample =>
    dsimp only [World.apply]
    unfold World.stopBarrier
    split
    · rename_i s found
      split
      · dsimp only
        have stopped := fun offsetMs reason =>
          commit_stop_kept { w with session := some { s with admissionsBarred := true } } offsetMs reason
        split
        · exact ⟨(stopped _ _).lifecycle, (stopped _ _).receipts⟩
        · exact ⟨(stopped _ _).lifecycle, (stopped _ _).receipts⟩
      · exact .refl
    · exact .refl
  | insertVideo id writable =>
    dsimp only [World.apply]
    unfold World.insertVideo
    repeat' split
    · rename_i done
      exact ⟨by rw [← (Journal.attachVideo_sameInputs done).lifecycle]; exact List.prefix_rfl, List.prefix_rfl⟩
    · exact ⟨List.prefix_rfl, List.prefix_rfl⟩
    · exact .refl
    · exact .refl
  | closeFramePin id unpinned =>
    dsimp only [World.apply]
    unfold World.closeFramePin
    repeat' split
    all_goals exact ⟨List.prefix_rfl, List.prefix_rfl⟩
  | attachVideo id rows incompleteReason manifest =>
    dsimp only [World.apply]
    unfold World.attachVideo
    split
    all_goals exact ⟨List.prefix_rfl, List.prefix_rfl⟩
  | pinVideo id pinned =>
    dsimp only [World.apply]
    unfold World.pinVideo
    repeat' split
    all_goals exact ⟨List.prefix_rfl, List.prefix_rfl⟩
  | closeVideoPin id unpinned =>
    dsimp only [World.apply]
    unfold World.closeVideoPin
    repeat' split
    all_goals exact ⟨List.prefix_rfl, List.prefix_rfl⟩
  | freeze id =>
    dsimp only [World.apply]
    unfold World.freeze
    split
    · exact startFreeze_kept
    · exact .refl
  | freezeRecovered id =>
    dsimp only [World.apply]
    unfold World.freezeRecovered
    split
    · exact startFreeze_kept
    · exact .refl
  | publishOriginal id stored =>
    dsimp only [World.apply]
    unfold World.publishOriginal
    repeat' split
    all_goals exact ⟨List.prefix_rfl, List.prefix_rfl⟩
  | commitOriginal id writable => exact booked.commitOriginal_kept id writable
  | unpinRecording id unpinned =>
    dsimp only [World.apply]
    unfold World.unpinRecording
    repeat' split
    all_goals exact ⟨List.prefix_rfl, List.prefix_rfl⟩
  | appendLifecycle operationId generation kind status observedAtMs =>
    dsimp only [World.apply]
    unfold World.appendLifecycle
    split
    · exact commit_kept fun j done => (Journal.appendLifecycle_ok done).1.grown
    · exact .refl
  | crash => exact ⟨List.prefix_rfl, List.prefix_rfl⟩
  | reopen id =>
    dsimp only [World.apply]
    unfold World.reopen
    split
    · split
      · exact ⟨List.prefix_rfl, List.prefix_rfl⟩
      · have recovered : w.journal.recover.lifecycle = w.journal.lifecycle := by
          unfold Journal.recover
          split
          · rfl
          · rfl
        dsimp only
        split
        · exact ⟨by rw [← recovered]; exact List.prefix_rfl, List.prefix_rfl⟩
        · have begun : (w.put w.journal.recover).Kept ((w.put w.journal.recover).startFreeze host id true) :=
            startFreeze_kept
          obtain ⟨lifecycle, receipts⟩ := begun
          exact ⟨by rw [← recovered]; exact lifecycle, receipts⟩
    · exact .refl

theorem Booked.run_kept (booked : w.Booked) (events : List Event) : w.Kept (w.run host events) := by
  induction events generalizing w with
  | nil => exact .refl
  | cons event events ih =>
    have first : w.Kept (w.apply host event) := booked.apply_kept event
    have rest : (w.apply host event).Kept ((w.apply host event).run host events) := ih (booked.apply event)
    exact ⟨first.lifecycle.trans rest.lifecycle, first.receipts.trans rest.receipts⟩

end World

end Reproof.Live.RecordingSession

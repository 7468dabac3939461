import Reproof.Live.RecordingSession.Receipts

/-! Where the first receipt of an input is found, and that no other outcome is taken after it. -/

namespace Reproof.Live.RecordingSession

open Contracts Library

namespace Journal

variable {j j' : Journal} {operationId : String}

/-- The receipt of an operation that the original tells, or that it will tell. -/
def told (j : Journal) (operationId : String) : Option InputReceipt :=
  match j.row.original with
  | some original => (original.events.find? (·.operationId = operationId)).bind (·.receipt)
  | none => (j.event? operationId).bind (·.receipt)

/-- The outcomes in the late receipts of an operation. -/
def acks (j : Journal) (operationId : String) : List LifecycleStatus :=
  (j.pending.filter fun row => row.operationId = operationId ∧ row.kind = .ack).map (·.status) ++
    (j.lifecycle.filter fun receipt => receipt.operationId = operationId ∧ receipt.kind = .ack).map (·.status)

theorem find_mapIdx_admitted (events : List EventRow) (sequence : Nat → Nat) :
    ((events.mapIdx fun n event => admitted (sequence n) event).find? (·.operationId = operationId)).bind
      (·.receipt) = (events.find? (·.operationId = operationId)).bind (·.receipt) := by
  induction events generalizing sequence with
  | nil => rfl
  | cons event events ih =>
    rw [List.mapIdx_cons, List.find?_cons, List.find?_cons]
    have same : (admitted (sequence 0) event).operationId = event.operationId := rfl
    rw [same]
    cases decide (event.operationId = operationId) with
    | true => rfl
    | false => exact ih fun n => sequence (n + 1)

/-- The original tells what the events say. -/
theorem Booked.told (booked : j.Booked) : j.told operationId = (j.event? operationId).bind (·.receipt) := by
  unfold Journal.told
  cases at_original : j.row.original with
  | none => rfl
  | some original =>
    have frozen : j.row.state.Frozen := by
      cases state : j.row.state with
      | preparing => exact absurd ((booked.early (.inl state)).2.2.1.symm.trans at_original) nofun
      | recording => exact absurd ((booked.early (.inr state)).2.2.1.symm.trans at_original) nofun
      | finalizing => exact absurd ((booked.fenced state).2.2.symm.trans at_original) nofun
      | frozenComplete => exact .inl rfl
      | frozenIncomplete => exact .inr rfl
    obtain ⟨-, -, written, at_written, events, barrier⟩ := booked.frozen frozen
    obtain rfl := Option.some.inj (at_original.symm.trans at_written)
    dsimp only
    rw [events, frozenEvents, barrier, Option.getD_some, List.take_length]
    exact find_mapIdx_admitted j.events (· + 1)

/-- The one row of an event. -/
theorem Booked.event_eq (booked : j.Booked) {event : EventRow} (member : event ∈ j.events) :
    j.event? event.operationId = some event := by
  unfold event?
  cases found : j.events.find? (·.operationId = event.operationId) with
  | none => exact absurd (List.find?_eq_none.mp found event member) (by simp)
  | some other =>
    have same : other.operationId = event.operationId := by simpa using List.find?_some found
    rw [List.inj_on_of_nodup_map booked.once (List.mem_of_find?_eq_some found) member same]

/-- What only one item has is filtered to it. -/
theorem filter_once {α β : Type} {items : List α} {key : α → β} (once : (items.map key).Nodup) {p : α → Bool}
    {item : α} (member : item ∈ items) (holds : p item = true)
    (only : ∀ other ∈ items, p other = true → key other = key item) : items.filter p = [item] := by
  obtain ⟨before, after, rfl⟩ := List.append_of_mem member
  rw [List.map_append, List.map_cons, List.nodup_middle, List.nodup_cons, List.mem_append] at once
  have left : before.filter p = [] := List.filter_eq_nil_iff.mpr fun other found met =>
    once.1 (.inl (List.mem_map.mpr ⟨other, found, only other (List.mem_append_left _ found) met⟩))
  have right : after.filter p = [] := List.filter_eq_nil_iff.mpr fun other found met =>
    once.1 (.inr (List.mem_map.mpr ⟨other, found, only other (List.mem_append_right _ (.tail _ found)) met⟩))
  rw [List.filter_append, left, List.filter_cons_of_pos holds, right, List.nil_append]

/-- Late receipts wait, or are behind the original. -/
theorem Booked.waits_or_behind (booked : j.Booked) : j.lifecycle = [] ∨ j.pending = [] := by
  cases state : j.row.state with
  | preparing => exact .inr (booked.early (.inl state)).2.2.2
  | recording => exact .inr (booked.early (.inr state)).2.2.2
  | finalizing => exact .inl (booked.none_behind (booked.fenced state).2.1)
  | frozenComplete => exact .inr (booked.frozen (.inl state)).2.1
  | frozenIncomplete => exact .inr (booked.frozen (.inr state)).2.1

/-- A late receipt is there once. -/
theorem Booked.acks_late (booked : j.Booked) {status : LifecycleStatus}
    (late : (∃ row ∈ j.pending, row.operationId = operationId ∧ row.status = status) ∨
      ∃ ack ∈ j.lifecycle, ack.kind = .ack ∧ ack.operationId = operationId ∧ ack.status = status) :
    j.acks operationId = [status] := by
  unfold Journal.acks
  obtain ⟨row, member, rfl, rfl⟩ | ⟨ack, member, kind, rfl, rfl⟩ := late
  · have behind : j.lifecycle = [] := booked.waits_or_behind.resolve_right (List.ne_nil_of_mem member)
    have one := filter_once booked.lateOnce
      (p := fun other => decide (other.operationId = row.operationId ∧ other.kind = .ack)) member
      (decide_eq_true ⟨rfl, (booked.late row member).1⟩) fun other _ met => (of_decide_eq_true met).1
    rw [one, behind]
    rfl
  · have waits : j.pending = [] := booked.waits_or_behind.resolve_left (List.ne_nil_of_mem member)
    have one := filter_once booked.numbered.once
      (p := fun other => decide (other.operationId = ack.operationId ∧ other.kind = .ack)) member
      (decide_eq_true ⟨rfl, kind⟩) fun other _ met => by
        obtain ⟨about, other_kind⟩ := of_decide_eq_true met
        rw [about, other_kind, kind]
    rw [one, waits]
    rfl

/-- An event that has its receipt has no late one. -/
theorem Booked.acks_none (booked : j.Booked) {event : EventRow} (member : event ∈ j.events)
    (receipt : event.receipt.isSome) : j.acks event.operationId = [] := by
  have only {other : EventRow} (found : other ∈ j.events) (same : other.operationId = event.operationId)
      (none_ : other.receipt = none) : False := by
    rw [List.inj_on_of_nodup_map booked.once found member same] at none_
    rw [none_] at receipt
    cases receipt
  have waiting : (j.pending.filter fun row => row.operationId = event.operationId ∧ row.kind = .ack) = [] :=
    List.filter_eq_nil_iff.mpr fun row found met => by
      obtain ⟨-, other, member', same, none_⟩ := booked.late row found
      exact only member' (same.trans (of_decide_eq_true met).1) none_
  have behind : (j.lifecycle.filter fun ack => ack.operationId = event.operationId ∧ ack.kind = .ack) = [] :=
    List.filter_eq_nil_iff.mpr fun ack found met => by
      obtain ⟨about, kind⟩ := of_decide_eq_true met
      obtain ⟨other, member', same, none_⟩ := booked.acks ack found kind
      exact only member' (same.trans about) none_
  rw [Journal.acks, waiting, behind]
  rfl

theorem lifecycleStatus_injective : Function.Injective lifecycleStatus := by
  intro first second same
  cases first with
  | injected | rejected | unknown => cases second with
    | injected | rejected | unknown => first | rfl | cases same

/-- Once an operation has a receipt, no other status is taken for it, and on time no other error code. -/
theorem Booked.refuses (booked : j.Booked) {receipt : InputReceipt} (files : j.Files receipt) {status : Dispatch}
    {errorCode : Option String}
    (other : status ≠ receipt.status ∨
      (∃ event ∈ j.events, event.operationId = receipt.operationId ∧ event.receipt.isSome) ∧
        errorCode ≠ receipt.errorCode) (stamp : Stamp) :
    ∃ message, j.recordReceipt receipt.operationId status errorCode stamp = .error message := by
  cases done : j.recordReceipt receipt.operationId status errorCode stamp with
  | error message => exact ⟨message, rfl⟩
  | ok result =>
    obtain ⟨j', again⟩ := result
    obtain ⟨event, member, about, -, same_status, same_code, how⟩ := booked.recordReceipt_ok done
    obtain ⟨event', member', about', kept⟩ := files
    obtain rfl := List.inj_on_of_nodup_map booked.once member' member (about'.trans about.symm)
    obtain ⟨told, -⟩ | ⟨told, admitting, -⟩ | ⟨told, closed, late⟩ := how
    · obtain kept | ⟨none_, -⟩ := kept
      · obtain rfl := Option.some.inj (told.symm.trans kept)
        obtain other | ⟨-, other⟩ := other
        · exact absurd same_status.symm other
        · exact absurd same_code.symm other
      · exact absurd (told.symm.trans none_) nofun
    · obtain kept | ⟨-, kept⟩ := kept
      · exact absurd (told.symm.trans kept) nofun
      · obtain ⟨waits, behind⟩ := booked.of_admitting admitting
        rw [waits, behind] at kept
        obtain ⟨_, none_, -⟩ | ⟨_, none_, -⟩ := kept
        · cases none_
        · cases none_
    · obtain kept | ⟨-, kept⟩ := kept
      · exact absurd (told.symm.trans kept) nofun
      · obtain other | ⟨⟨event', member', about'', some_⟩, -⟩ := other
        · have past : ¬ (j.row.state = .preparing ∨ j.row.state = .recording) := by
            intro early
            obtain ⟨-, digest, -, waits⟩ := booked.early early
            rw [waits, booked.none_behind digest] at kept
            obtain ⟨_, none_, -⟩ | ⟨_, none_, -⟩ := kept
            · cases none_
            · cases none_
          obtain ⟨after, later, found⟩ := booked.lateReceipt member told past late
          have first := after.acks_late (kept.imp
            (fun ⟨row, waits, same⟩ => ⟨row, later.pending waits, same⟩)
            fun ⟨ack, behind, same⟩ => ⟨ack, later.lifecycle.subset behind, same⟩)
          have second := after.acks_late found
          rw [about, first] at second
          exact absurd (lifecycleStatus_injective (List.singleton_injective second)).symm other
        · rw [List.inj_on_of_nodup_map booked.once member' member (about''.trans about'.symm), told] at some_
          cases some_

theorem Booked.begins {row : Recording} (state : row.state = .preparing) (barrier : row.barrierSequence = none)
    (digest : row.recordingDigest = none) (original : row.original = none) (count : row.lifecycleSequence = 0) :
    (⟨row, [], [], [], [], [], [], [], []⟩ : Journal).Booked where
  once := List.nodup_nil
  own := List.forall_mem_nil _
  late := List.forall_mem_nil _
  lateOnce := List.nodup_nil
  acks := List.forall_mem_nil _
  numbered := ⟨List.nodup_nil, rfl, count, List.forall_mem_nil _⟩
  early _ := ⟨barrier, digest, original, rfl⟩
  fenced finalizing := nomatch state.symm.trans finalizing
  frozen
    | .inl frozen => nomatch state.symm.trans frozen
    | .inr frozen => nomatch state.symm.trans frozen

end Journal

namespace World

variable {host : Host} {w : World}

theorem beginRecording_booked {registrations : List Registration} {issuer : Nat} {anchor : Anchor}
    {begins : Beginning} (began : beginRecording host registrations issuer anchor begins = .ok w) : w.Booked := by
  obtain ⟨registration, -, -, -, rfl⟩ := beginRecording_ok began
  have state : (begins.row registration anchor).state = .preparing := rfl
  refine ⟨Journal.Booked.begins state rfl rfl rfl rfl, fun alive => (nomatch alive), List.forall_mem_nil _,
    List.forall_mem_nil _, fun _ _ found => (nomatch found), fun id call original found reads => ?_⟩
  obtain ⟨-, rfl⟩ | ⟨-, old⟩ := Dict.get?_set_some found
  · cases reads
  · cases old

/-- The first receipt of an operation is for ever in one place, with its status, and nothing else is taken. -/
theorem Booked.first_receipt (booked : w.Booked) {operationId : String} {first : Returned}
    (found : w.receipts.find? (·.receipt.operationId = operationId) = some first) :
    (if first.onTime = true then
        w.journal.told operationId = some first.receipt ∧ w.journal.acks operationId = []
      else w.journal.told operationId = none ∧
        w.journal.acks operationId = [Journal.lifecycleStatus first.receipt.status]) ∧
    ∀ status errorCode stamp,
      (status ≠ first.receipt.status ∨ first.onTime = true ∧ errorCode ≠ first.receipt.errorCode) →
        ∃ message, w.journal.recordReceipt operationId status errorCode stamp = .error message := by
  have named : first.receipt.operationId = operationId := by simpa using List.find?_some found
  have files := booked.filed first (List.mem_of_find?_eq_some found)
  obtain ⟨event, member, about, kept⟩ := files
  have on_time := booked.first operationId first found event member (about.trans named)
  subst named
  have told : w.journal.told first.receipt.operationId = event.receipt := by
    rw [booked.journal.told, ← about, booked.journal.event_eq member]
    rfl
  refine ⟨?_, fun status errorCode stamp other => booked.journal.refuses ⟨event, member, about, kept⟩
    (other.imp_right fun ⟨early, code⟩ => ⟨⟨event, member, about, on_time.mp early⟩, code⟩) stamp⟩
  rw [told]
  split
  · rename_i early
    obtain kept | ⟨none_, -⟩ := kept
    · exact ⟨kept, about ▸ booked.journal.acks_none member (on_time.mp early)⟩
    · have some_ := on_time.mp early
      rw [none_] at some_
      cases some_
  · rename_i late
    obtain kept | ⟨none_, kept⟩ := kept
    · exact absurd (on_time.mpr (by rw [kept]; rfl)) late
    · exact ⟨none_, booked.journal.acks_late (kept.imp id fun ⟨ack, member, kind, same⟩ => ⟨ack, member, kind, same⟩)⟩

/-- The first receipt of an operation is kept once for ever: in the original, when it was on time, or as one late
receipt with its status, which is behind the original once there is one. Another status is refused from then on,
and another error code too when the first receipt was on time. The receipts behind an original are numbered from 1,
carry its digest and only become more. -/
theorem run_receipts {registrations : List Registration} {issuer : Nat} {anchor : Anchor} {begins : Beginning}
    (began : beginRecording host registrations issuer anchor begins = .ok w) (events : List Event) :
    let w' := w.run host events
    (∀ operationId first, w'.receipts.find? (·.receipt.operationId = operationId) = some first →
      (if first.onTime = true then
          w'.journal.told operationId = some first.receipt ∧ w'.journal.acks operationId = []
        else w'.journal.told operationId = none ∧
          w'.journal.acks operationId = [Journal.lifecycleStatus first.receipt.status]) ∧
      ∀ status errorCode stamp,
        (status ≠ first.receipt.status ∨ first.onTime = true ∧ errorCode ≠ first.receipt.errorCode) →
          ∃ message, w'.journal.recordReceipt operationId status errorCode stamp = .error message) ∧
    (w'.journal.row.state.Frozen → w'.journal.row.original.isSome ∧ w'.journal.pending = []) ∧
    (w'.journal.lifecycle.map (·.sequence) = (List.range w'.journal.lifecycle.length).map fun n : Nat => (n : Int) + 1) ∧
    (∀ receipt ∈ w'.journal.lifecycle, w'.journal.row.recordingDigest = some receipt.recordingDigest) ∧
    ∀ more, w'.journal.lifecycle <+: (w'.run host more).journal.lifecycle ∧
      w'.receipts <+: (w'.run host more).receipts := by
  intro w'
  have booked : w'.Booked := (beginRecording_booked began).run events
  refine ⟨fun operationId first found => booked.first_receipt found, fun frozen => ?_,
    booked.journal.numbered.sequences, booked.journal.numbered.digests, fun more => ?_⟩
  · obtain ⟨-, waits, original, written, -⟩ := booked.journal.frozen frozen
    exact ⟨by rw [written]; rfl, waits⟩
  · have kept : w'.Kept (w'.run host more) := booked.run_kept more
    exact ⟨kept.lifecycle, kept.receipts⟩

section Trial

/-- A host for trials, on which every digest is the same. -/
def plain : Host where
  python :=
    { lower := id
      casefold := id
      nfc := id
      float := String.ofList
      depth := 64
      sha256 _ := String.ofList (List.replicate 64 'a')
      hmac _ _ := "" }
  repr _ := "0.0"
  accuracy := 0
  accurate := by decide

/-- A registration that collects everything it is told is no secret. -/
def shop (captureMode : CaptureMode) : Registration where
  project :=
    { id := "shop"
      revision := "r1"
      applications := [("app", "com.shop")]
      builds := [("build", "app", String.ofList (List.replicate 64 'b'))]
      variableIds := []
      recipes := []
      fixturesEvidence := false
      evidence _ := true }
  projectDigest := String.ofList (List.replicate 64 'c')
  captureMode

def midnight : Anchor := ⟨⟨0, ⟨0, 0, by decide⟩⟩, 0, by decide⟩

def shopping : Beginning where
  recordingId := "recording"
  sessionId := "session"
  applicationId := "app"
  buildId := "build"
  bundle := "com.shop"
  artifactDigest := String.ofList (List.replicate 64 'b')
  deviceIdentityDigest := String.ofList (List.replicate 64 'd')
  providerIncarnation := "provider"
  preparation := []
  candidate := none

/-- A sample of the host's clock. -/
def second : Option Sample := some ⟨0, ⟨1000000000, 0, by decide⟩⟩

def home : Input := ⟨"home", ⟨none, none, none, none, none, none, none, none, none, none⟩, none, none⟩

theorem shopping_begins (captureMode : CaptureMode) {P : World → Prop} [DecidablePred P]
    (fine : (match beginRecording plain [shop captureMode] 0 midnight shopping with
      | .ok w => decide (P w)
      | .error _ => false) = true) :
    ∃ w, beginRecording plain [shop captureMode] 0 midnight shopping = .ok w ∧ P w := by
  cases began : beginRecording plain [shop captureMode] 0 midnight shopping with
  | ok w =>
    rw [began] at fine
    exact ⟨w, rfl, of_decide_eq_true fine⟩
  | error message =>
    rw [began] at fine
    cases fine

end Trial

/-- Two inputs; the receipt of the first is on time, that of the second comes after the stop, and again. -/
def twoReceipts : List Event :=
  [.prepare 0, .admitInput "first" 1 "provider" home second, .admitInput "second" 1 "provider" home second,
    .recordReceipt "first" .injected none second, .stopBarrier none second,
    .recordReceipt "second" .rejected (some "timeout") second]

theorem run_receipts_twoReceipts :
    ∃ w, beginRecording plain [shop .testData] 0 midnight shopping = .ok w ∧
      (w.run plain twoReceipts).journal.acks "second" = [.failed] ∧
      ∀ errorCode stamp, ∃ message,
        (w.run plain twoReceipts).journal.recordReceipt "second" .injected errorCode stamp = .error message := by
  have runs := shopping_begins .testData
    (P := fun w => ((w.run plain twoReceipts).receipts.find? (·.receipt.operationId = "second")).map
      (fun first => (first.onTime, first.receipt.status)) = some (false, .rejected)) (by decide +kernel)
  obtain ⟨w, began, first_is⟩ := runs
  obtain ⟨first, found, is⟩ := Option.map_eq_some_iff.mp first_is
  obtain ⟨late, rejected⟩ := Prod.mk.inj is
  obtain ⟨kept, refused⟩ := (run_receipts began twoReceipts).1 "second" first found
  rw [late, rejected] at kept
  refine ⟨w, began, kept.2, fun errorCode stamp => refused .injected errorCode stamp (.inl ?_)⟩
  rw [rejected]
  nofun

/-- The receipt that came late is given again with another error code, and is returned. -/
theorem twoReceipts_again :
    ∃ w, beginRecording plain [shop .testData] 0 midnight shopping = .ok w ∧
      ((w.run plain twoReceipts).recordReceipt "second" .rejected (some "lost") second).receipts.map
          (fun returned => (returned.receipt.operationId, returned.receipt.errorCode)) =
        [("first", none), ("second", some "timeout"), ("second", some "lost")] :=
  shopping_begins .testData (by decide +kernel)

end World

end Reproof.Live.RecordingSession

import Mathlib.Logic.Relation
import Reproof.Live.Video.Coverage

/-! The losses of a recovered video: neighbours that are merged, and the mark of an admitted source. -/

namespace Reproof.Live.Video.Recovery

open Library Contracts

structure Range where
  first : Int
  last : Int

structure Interval where
  startOffsetMs : Int
  endOffsetMs : Int

/-- A loss whose ranges have their shapes, by the keys that are looked at. -/
structure Loss where
  lossClass : Option String
  stage : Option String
  reason : Option String
  recordingInterval : Option Interval
  recordingFrameRange : Option Range
  nativeSequenceRange : Option Range
  acquisitionSequence : Option Json
  segmentIndex : Option Int

/-- `_MAX_LOSSES`. -/
def maxLosses : Nat := 512

def IsAdjacent (previous current : Option Range) : Prop :=
  ∃ before ∈ previous, ∃ after ∈ current, before.last + 1 = after.first

instance (previous current : Option Range) : Decidable (IsAdjacent previous current) :=
  inferInstanceAs (Decidable (∃ before ∈ previous, ∃ after ∈ current, _))

def CanMerge (previous current : Loss) : Prop :=
  (previous.lossClass, previous.stage, previous.reason) =
    (current.lossClass, current.stage, current.reason) ∧
  previous.recordingFrameRange.isNone = current.recordingFrameRange.isNone ∧
  previous.nativeSequenceRange.isNone = current.nativeSequenceRange.isNone ∧
  ¬ (previous.recordingFrameRange.isNone ∧ previous.nativeSequenceRange.isNone) ∧
  (if previous.recordingFrameRange.isNone then
    IsAdjacent previous.nativeSequenceRange current.nativeSequenceRange
  else IsAdjacent previous.recordingFrameRange current.recordingFrameRange) ∧
  ∃ before ∈ previous.recordingInterval, ∃ after ∈ current.recordingInterval,
    before.endOffsetMs ≤ after.startOffsetMs

instance (previous current : Loss) : Decidable (CanMerge previous current) := by
  unfold CanMerge
  infer_instance

/-- A missing key of the current loss raises. -/
def mergeLosses (previous current : Loss) : Option Loss := do
  let result ← match previous.recordingFrameRange with
    | some range => do
      let other ← current.recordingFrameRange
      pure { previous with
        recordingFrameRange := some ⟨range.first, other.last⟩, acquisitionSequence := none }
    | none => do
      let range ← previous.nativeSequenceRange
      let other ← current.nativeSequenceRange
      pure { previous with nativeSequenceRange := some ⟨range.first, other.last⟩ }
  let interval ← previous.recordingInterval
  let other ← current.recordingInterval
  pure { result with
    recordingInterval := some ⟨interval.startOffsetMs, other.endOffsetMs⟩
    segmentIndex := if previous.segmentIndex ≠ current.segmentIndex then none
      else previous.segmentIndex }

/-- The loop, with the result so far. -/
def coalesceFrom (result : List Loss) : List Loss → Option (List Loss)
  | [] => some result
  | loss :: losses =>
    match result.getLast? with
    | some previous =>
      if CanMerge previous loss then
        (mergeLosses previous loss).bind fun merged =>
          coalesceFrom (result.dropLast ++ [merged]) losses
      else coalesceFrom (result ++ [loss]) losses
    | none => coalesceFrom (result ++ [loss]) losses

def coalesceLosses (losses : List Loss) : Except String (List Loss) := do
  let result ← orFail (coalesceFrom [] losses) "KeyError"
  require (result.length ≤ maxLosses) "Video loss limit reached"
  pure result

/-- A source of the catalog. -/
structure Admitted where
  recordingFrameSequence : Int
  acquisitionSequence : Int
  digest : String
  offsetMs : Int

/-- The first range within the sources is split behind its first one. -/
def markFirst (sources : List Admitted) : List Loss → List Loss
  | [] => []
  | loss :: losses =>
    match loss.recordingFrameRange with
    | none => loss :: markFirst sources losses
    | some ⟨first, last⟩ =>
      if 1 ≤ first ∧ first ≤ last ∧ last ≤ sources.length then
        match sources[(first - 1).toNat]? with
        | none => loss :: markFirst sources losses
        | some source =>
          let marker := { loss with
            recordingFrameRange := some ⟨first, first⟩
            acquisitionSequence := some (.int source.acquisitionSequence)
            recordingInterval := some ⟨source.offsetMs, source.offsetMs⟩ }
          let remainder := { loss with
            recordingFrameRange := some ⟨first + 1, last⟩, acquisitionSequence := none }
          marker :: ((if first < last then [remainder] else []) ++ losses)
      else loss :: markFirst sources losses

def ensureSourceSamplingMarker (losses : List Loss) (sources : List Admitted)
    (segments : List Json) : List Loss :=
  if sources = [] ∨ segments ≠ [] ∨ ∃ loss ∈ losses, loss.acquisitionSequence.isSome then losses
  else markFirst sources losses

section Documents

def entry (key : String) (value : Option Json) : Fields := (value.map fun v => (key, v)).toList

def Range.document (range : Range) : Json := .dict [("first", .int range.first), ("last", .int range.last)]

def Interval.document (interval : Interval) : Json :=
  .dict [("startOffsetMs", .int interval.startOffsetMs), ("endOffsetMs", .int interval.endOffsetMs)]

def Loss.fields (loss : Loss) : Fields :=
  entry "lossClass" (loss.lossClass.map .str) ++ (entry "stage" (loss.stage.map .str) ++
    (entry "reason" (loss.reason.map .str) ++
    (entry "recordingInterval" (loss.recordingInterval.map Interval.document) ++
    (entry "recordingFrameRange" (loss.recordingFrameRange.map Range.document) ++
    (entry "nativeSequenceRange" (loss.nativeSequenceRange.map Range.document) ++
    (entry "acquisitionSequence" loss.acquisitionSequence ++
      entry "segmentIndex" (loss.segmentIndex.map .int)))))))

def Loss.document (loss : Loss) : Json := .dict loss.fields

def documents (losses : List Loss) : Json := .list (losses.map Loss.document)

/-- The ledger of a manifest. -/
def sourceFrames (sources : List Admitted) : Json :=
  .list (sources.map fun source => .dict [("sequence", .int source.recordingFrameSequence),
    ("acquisitionSequence", .int source.acquisitionSequence), ("digest", .str source.digest)])

end Documents

section Reading

theorem field_entry {key other : String} {value : Option Json} :
    field (entry key value) other = if key = other then value else none := by
  by_cases same : key = other
  · cases value <;> simp [entry, field, same]
  · cases value <;> simp [entry, field, same]

theorem field_append {fields rest : Fields} {key : String} :
    field (fields ++ rest) key = (field fields key).or (field rest key) := by
  rw [field, List.find?_append]
  simp only [field]
  cases fields.find? fun pair => decide (pair.1 = key) with
  | none => rfl
  | some pair => rfl

namespace Loss

variable {loss : Loss}

theorem field_lossClass : field loss.fields "lossClass" = loss.lossClass.map .str := by
  simp [fields, field_append, field_entry]

theorem field_stage : field loss.fields "stage" = loss.stage.map .str := by
  simp [fields, field_append, field_entry]

theorem field_recordingFrameRange :
    field loss.fields "recordingFrameRange" = loss.recordingFrameRange.map Range.document := by
  simp [fields, field_append, field_entry]

theorem field_nativeSequenceRange :
    field loss.fields "nativeSequenceRange" = loss.nativeSequenceRange.map Range.document := by
  simp [fields, field_append, field_entry]

theorem field_acquisitionSequence :
    field loss.fields "acquisitionSequence" = loss.acquisitionSequence := by
  simp [fields, field_append, field_entry]

theorem strField_lossClass : strField loss.fields "lossClass" = loss.lossClass := by
  rw [strField, field_lossClass]
  cases loss.lossClass <;> rfl

theorem strField_stage : strField loss.fields "stage" = loss.stage := by
  rw [strField, field_stage]
  cases loss.stage <;> rfl

theorem readRange_document {range : Range} :
    readRange range.document = some (range.first, range.last) := rfl

/-- The bytes of its frames are lost. -/
def IsBytes (loss : Loss) : Prop := ∃ name ∈ byteLosses, loss.lossClass = some name

instance : DecidablePred IsBytes :=
  fun loss => inferInstanceAs (Decidable (∃ name ∈ byteLosses, loss.lossClass = some name))

/-- The loss as the check reads it. -/
def abstract (loss : Loss) : Video.Loss :=
  match loss.recordingFrameRange, loss.nativeSequenceRange with
  | some range, _ => .frames (decide loss.IsBytes) range.first range.last
      (loss.acquisitionSequence.bind asInt)
  | none, some range => .native range.first range.last
  | none, none => .bare (decide loss.IsBytes) (loss.acquisitionSequence.bind asInt)

/-- The class and the range of the loss are in order. -/
def Located (ledger : List Source) (loss : Loss) : Prop :=
  match loss.recordingFrameRange, loss.nativeSequenceRange with
  | some _, some _ => False
  | some range, none => (loss.IsBytes ∨ loss.lossClass = some "unknown-acquisition-interval") ∧
      1 ≤ range.first ∧ range.first ≤ range.last ∧ range.last ≤ ledger.length
  | none, some range =>
      (loss.lossClass = some "not-acquired" ∨ loss.lossClass = some "captured-dropped") ∧
      (loss.stage = some "native" ∨ loss.stage = some "transport") ∧
      (1 ≤ range.first ∧ range.first ≤ range.last ∧ range.last ≤ 2 ^ 63 - 1) ∧
      ∀ source ∈ ledger,
        ¬ (range.first ≤ source.acquisitionSequence ∧ source.acquisitionSequence ≤ range.last)
  | none, none =>
      loss.lossClass = some "not-acquired" ∨ loss.lossClass = some "unknown-acquisition-interval"

/-- An acquisition number is that of the only frame of the loss. -/
def Numbered (ledger : List Source) (loss : Loss) : Prop :=
  match loss.recordingFrameRange with
  | some range => ∀ value ∈ loss.acquisitionSequence, range.first = range.last ∧
      ∃ source, ledger[(range.first - 1).toNat]? = some source ∧
        value = .int source.acquisitionSequence
  | none => loss.acquisitionSequence = none

theorem asInt_eq_some {value : Json} {n : Int} : asInt value = some n ↔ value = .int n := by
  cases value <;> simp [asInt]

theorem readClass_bytes {others : List String} {bytes : Bool}
    (apart : ∀ name ∈ others, name ∉ byteLosses) : readClass loss.fields others = some bytes ↔
      bytes = decide loss.IsBytes ∧ (loss.IsBytes ∨ ∃ name ∈ others, loss.lossClass = some name) := by
  rw [readClass_eq_some apart, strField_lossClass]
  cases bytes with
  | true =>
    simp only [if_true, true_eq_decide_iff]
    constructor
    · exact fun ⟨name, found, mem⟩ => ⟨⟨name, mem, found⟩, .inl ⟨name, mem, found⟩⟩
    · exact fun ⟨⟨name, mem, found⟩, _⟩ => ⟨name, found, mem⟩
  | false =>
    simp only [Bool.false_eq_true, if_false, false_eq_decide_iff]
    constructor
    · rintro ⟨name, found, mem⟩
      refine ⟨?_, .inr ⟨name, mem, found⟩⟩
      rintro ⟨other, mem', found'⟩
      cases found.symm.trans found'
      exact apart name mem mem'
    · rintro ⟨absent, bytes | ⟨name, mem, found⟩⟩
      · exact absurd bytes absent
      · exact ⟨name, found, mem⟩

/-- What the check reads of a loss, and when it names its sources. -/
theorem readLoss_iff {ledger : List Source} {read : Video.Loss} :
    readLoss loss.document = some read ∧ read.Names ledger ↔
      read = loss.abstract ∧ loss.Located ledger ∧ loss.Numbered ledger := by
  simp only [readLoss, document, asDict, Option.bind_eq_bind, Option.bind_some,
    field_recordingFrameRange, field_nativeSequenceRange, abstract, Located, Numbered]
  cases loss.recordingFrameRange with
  | some range =>
    cases loss.nativeSequenceRange with
    | some native => simp
    | none =>
      have apart : ∀ name ∈ ["unknown-acquisition-interval"], name ∉ byteLosses := by decide
      simp only [Option.map_some, Option.map_none, readFrameLoss, readRange_document,
        Option.bind_eq_bind, Option.bind_some, Option.bind_eq_some_iff, readClass_bytes apart,
        readAcquisition_eq_some, intField, field_acquisitionSequence, Option.pure_def,
        Option.some.injEq, List.mem_singleton, exists_eq_left]
      constructor
      · rintro ⟨⟨_, ⟨rfl, named⟩, _, ⟨rfl, present⟩, rfl⟩, bounds, numbered⟩
        refine ⟨rfl, ⟨named, bounds⟩, fun value mem => ?_⟩
        obtain ⟨n, found⟩ := Option.isSome_iff_exists.mp (present (mem ▸ rfl))
        obtain ⟨alone, named⟩ := numbered n found
        obtain ⟨source, there, rfl⟩ := Option.map_eq_some_iff.mp named
        rw [Option.mem_def.mp mem, Option.bind_some, asInt_eq_some] at found
        exact ⟨alone, source, there, found⟩
      · rintro ⟨rfl, ⟨named, bounds⟩, numbered⟩
        refine ⟨⟨_, ⟨rfl, named⟩, _, ⟨rfl, fun present => ?_⟩, rfl⟩, bounds, fun n mem => ?_⟩
        · obtain ⟨value, mem⟩ := Option.isSome_iff_exists.mp present
          obtain ⟨_, source, _, rfl⟩ := numbered value mem
          rw [mem]
          rfl
        · obtain ⟨value, mem, read⟩ := Option.bind_eq_some_iff.mp mem
          obtain ⟨alone, source, there, rfl⟩ := numbered value mem
          refine ⟨alone, ?_⟩
          rw [there]
          exact read
  | none =>
    cases loss.nativeSequenceRange with
    | some native =>
      simp only [Option.map_some, Option.map_none, readNativeLoss, readRange_document,
        Option.bind_eq_bind, Option.bind_some, Option.bind_eq_some_iff, strField_lossClass,
        strField_stage, Option.guard_eq_some', field_acquisitionSequence, exists_const,
        Option.pure_def, Option.some.injEq, List.mem_cons, List.not_mem_nil, or_false]
      constructor
      · rintro ⟨⟨name, named, place, placed, ⟨bounds, class', near, unnumbered⟩, rfl⟩, apart⟩
        exact ⟨rfl, ⟨class'.imp (named.trans <| congrArg some ·) (named.trans <| congrArg some ·),
          near.imp (placed.trans <| congrArg some ·) (placed.trans <| congrArg some ·), bounds, apart⟩,
          unnumbered⟩
      · rintro ⟨rfl, ⟨class', near, bounds, apart⟩, unnumbered⟩
        obtain ⟨name, named, class'⟩ : ∃ name, loss.lossClass = some name ∧
            (name = "not-acquired" ∨ name = "captured-dropped") :=
          class'.elim (fun same => ⟨_, same, .inl rfl⟩) fun same => ⟨_, same, .inr rfl⟩
        obtain ⟨place, placed, near⟩ : ∃ place, loss.stage = some place ∧
            (place = "native" ∨ place = "transport") :=
          near.elim (fun same => ⟨_, same, .inl rfl⟩) fun same => ⟨_, same, .inr rfl⟩
        exact ⟨⟨name, named, place, placed, ⟨bounds, class', near, unnumbered⟩, rfl⟩, apart⟩
    | none =>
      have apart : ∀ name ∈ ["not-acquired", "unknown-acquisition-interval"], name ∉ byteLosses := by
        decide
      simp only [Option.map_none, readBareLoss, Option.bind_eq_bind, Option.bind_eq_some_iff,
        readClass_bytes apart, readAcquisition_eq_some, intField, field_acquisitionSequence,
        Option.pure_def, Option.some.injEq, List.mem_cons, List.not_mem_nil, or_false,
        exists_eq_or_imp, exists_eq_left]
      constructor
      · rintro ⟨⟨_, ⟨rfl, named⟩, _, ⟨rfl, present⟩, rfl⟩, other, unnumbered⟩
        refine ⟨rfl, named.resolve_left (of_decide_eq_false other), ?_⟩
        rw [← Option.not_isSome_iff_eq_none]
        intro some
        have found := present some
        rw [unnumbered] at found
        cases found
      · rintro ⟨rfl, named, unnumbered⟩
        refine ⟨⟨_, ⟨rfl, .inr named⟩, _, ⟨rfl, ?_⟩, rfl⟩, decide_eq_false ?_, ?_⟩
        · rw [unnumbered]
          exact id
        · rintro ⟨name, bytes, same⟩
          cases named with
          | inl named =>
            cases named.symm.trans same
            exact absurd bytes (by decide)
          | inr named =>
            cases named.symm.trans same
            exact absurd bytes (by decide)
        · rw [unnumbered]
          rfl

end Loss

end Reading

end Reproof.Live.Video.Recovery

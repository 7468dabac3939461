import Mathlib.Data.List.Sort
import Mathlib.Data.List.Nodup
import Mathlib.Data.List.Pairwise
import Reproof.Live.Video.Sources

/-! The check of the source coverage accepts the exact covers, and nothing else. -/

namespace Reproof.Live.Video

open Library Contracts

/-- What a segment says of a frame. -/
structure Frame where
  sequence : Option Int
  acquisition : Option Int
  digest : Option String

/-- A loss of admitted frames, of native sequences, or without a range. -/
inductive Loss
  | frames (bytes : Bool) (first last : Int) (acquisition : Option Int)
  | native (first last : Int)
  | bare (bytes : Bool) (acquisition : Option Int)

section Shapes

def readFrame (frame : Json) : Option Frame := do
  let fields ← asDict frame
  pure ⟨intField fields "recordingFrameSequence", intField fields "acquisitionSequence",
    strField fields "sourceDigest"⟩

def readSegment (segment : Json) : Option (List Frame) := do
  let fields ← asDict segment
  let frames ← (field fields "frames").bind asList
  guard (frames.length ≤ 256)
  frames.mapM readFrame

def readSegments (segments : Json) : Option (List Frame) := do
  let segments ← asList segments
  guard (segments.length ≤ 128)
  let frames ← segments.mapM readSegment
  pure frames.flatten

def readRange (value : Json) : Option (Int × Int) := do
  let fields ← (exactly value ["first", "last"]).toOption
  let first ← intField fields "first"
  let last ← intField fields "last"
  pure (first, last)

/-- The number that a loss may have. -/
def readAcquisition (fields : Fields) : Option (Option Int) :=
  match field fields "acquisitionSequence" with
  | none => some none
  | some value => (asInt value).map some

/-- Whether the class of a loss is one of its bytes, if it is one of these classes. -/
def readClass (fields : Fields) (others : List String) : Option Bool := do
  let name ← strField fields "lossClass"
  if name ∈ byteLosses then some true else if name ∈ others then some false else none

def readFrameLoss (fields : Fields) (value : Json) : Option Loss := do
  let ends ← readRange value
  let bytes ← readClass fields ["unknown-acquisition-interval"]
  let acquisition ← readAcquisition fields
  pure (.frames bytes ends.1 ends.2 acquisition)

def readNativeLoss (fields : Fields) (value : Json) : Option Loss := do
  let ends ← readRange value
  let name ← strField fields "lossClass"
  let stage ← strField fields "stage"
  guard ((1 ≤ ends.1 ∧ ends.1 ≤ ends.2 ∧ ends.2 ≤ 2 ^ 63 - 1) ∧
    name ∈ ["not-acquired", "captured-dropped"] ∧ stage ∈ ["native", "transport"] ∧
    field fields "acquisitionSequence" = none)
  pure (.native ends.1 ends.2)

def readBareLoss (fields : Fields) : Option Loss := do
  let bytes ← readClass fields ["not-acquired", "unknown-acquisition-interval"]
  let acquisition ← readAcquisition fields
  pure (.bare bytes acquisition)

def readLoss (loss : Json) : Option Loss := do
  let fields ← asDict loss
  match field fields "recordingFrameRange", field fields "nativeSequenceRange" with
  | some _, some _ => none
  | some value, none => readFrameLoss fields value
  | none, some value => readNativeLoss fields value
  | none, none => readBareLoss fields

def readLosses (losses : Json) : Option (List Loss) := do
  let losses ← asList losses
  guard (losses.length ≤ 2 * maxSourceFrames)
  losses.mapM readLoss

/-- An entry of the ledger under its number. -/
def IsEntry (entry : Json × Nat) (source : Source) : Prop :=
  ∃ fields, exactly entry.1 ["sequence", "acquisitionSequence", "digest"] = .ok fields ∧
    intField fields "sequence" = some (entry.2 : Int) ∧
    intField fields "acquisitionSequence" = some source.acquisitionSequence ∧
    strField fields "digest" = some source.digest

/-- Entries numbered from one, with their acquisition sequences in order. -/
structure IsLedger (sources : Json) (ledger : List Source) : Prop where
  entries : ∃ items, asList sources = some items ∧ items.length ≤ maxSourceFrames ∧
    List.Forall₂ IsEntry (items.zipIdx 1) ledger
  bounded : ∀ source ∈ ledger, 0 < source.acquisitionSequence ∧
    source.acquisitionSequence < 2 ^ 63 ∧ isDigest source.digest
  ascending : (ledger.map Source.acquisitionSequence).Pairwise (· < ·)

end Shapes

/-- The frame names its entry. -/
def Frame.Names (ledger : List Source) (frame : Frame) : Prop :=
  ∃ number source, frame.sequence = some number ∧ 1 ≤ number ∧
    ledger[(number - 1).toNat]? = some source ∧
    frame.acquisition = some source.acquisitionSequence ∧ frame.digest = some source.digest

namespace Loss

/-- The bytes of this frame are lost. -/
def Loses (number : Int) : Loss → Prop
  | frames bytes first last _ => bytes = true ∧ first ≤ number ∧ number ≤ last
  | _ => False

instance (number : Int) : DecidablePred (Loses number)
  | frames .. => inferInstanceAs (Decidable (_ ∧ _))
  | native .. => .isFalse id
  | bare .. => .isFalse id

def nativeRanges : Loss → List (Int × Int)
  | native first last => [(first, last)]
  | _ => []

/-- A range names admitted sources and a number its source, a native range names none, and there is
no loss of bytes without a range. -/
def Names (ledger : List Source) : Loss → Prop
  | frames _ first last acquisition => (1 ≤ first ∧ first ≤ last ∧ last ≤ ledger.length) ∧
    ∀ number ∈ acquisition, first = last ∧
      ledger[(first - 1).toNat]?.map Source.acquisitionSequence = some number
  | native first last => ∀ source ∈ ledger,
    ¬ (first ≤ source.acquisitionSequence ∧ source.acquisitionSequence ≤ last)
  | bare bytes acquisition => bytes = false ∧ acquisition = none

end Loss

/-- Each source has one outcome, the durable frames are in order, and no native sequence is lost
twice. -/
structure ExactCover (ledger : List Source) (frames : List Frame) (losses : List Loss) : Prop where
  named : ∀ frame ∈ frames, frame.Names ledger
  ordered : (frames.filterMap Frame.sequence).Pairwise (· < ·)
  located : ∀ loss ∈ losses, loss.Names ledger
  once : ∀ number : Int, 1 ≤ number → number ≤ ledger.length →
    frames.countP (·.sequence = some number) + losses.countP (Loss.Loses number) = 1
  disjoint : (losses.flatMap Loss.nativeRanges).Pairwise fun a b => a.2 < b.1 ∨ b.2 < a.1

section Marking

variable {a b c : List Bool} {is js : List Nat}

/-- The entries that are covered after these. -/
def marked (covered : List Bool) (indices : List Nat) : List Bool :=
  indices.foldl (fun covered index => covered.set index true) covered

/-- None of the entries is covered twice. -/
def Fresh (covered : List Bool) (indices : List Nat) : Prop :=
  indices.Nodup ∧ ∀ index ∈ indices, covered[index]? = some false

theorem marked_get? (j : Nat) :
    (marked a is)[j]? = if j ∈ is then a[j]?.map fun _ => true else a[j]? := by
  induction is generalizing a with
  | nil => simp [marked]
  | cons i is ih =>
    rw [marked, List.foldl_cons, ← marked, ih]
    by_cases same : i = j
    · subst same
      cases found : a[i]? with
      | none =>
        have out : a.length ≤ i := List.getElem?_eq_none_iff.mp found
        simp [out]
      | some value =>
        obtain ⟨inside, _⟩ := List.getElem?_eq_some_iff.mp found
        simp [inside]
    · rw [List.getElem?_set_ne same]
      simp [Ne.symm same]

theorem marked_append : marked a (is ++ js) = marked (marked a is) js := List.foldl_append

theorem fresh_append : Fresh a (is ++ js) ↔ Fresh a is ∧ Fresh (marked a is) js := by
  have later (j : Nat) : (marked a is)[j]? = some false ↔ j ∉ is ∧ a[j]? = some false := by
    rw [marked_get?]
    split
    · rename_i mem
      simp [mem]
    · rename_i absent
      simp [absent]
  simp only [Fresh, List.nodup_append, List.mem_append, later]
  constructor
  · rintro ⟨⟨first, second, apart⟩, clear⟩
    exact ⟨⟨first, fun j mem => clear j (.inl mem)⟩, second,
      fun j mem => ⟨fun mem' => apart j mem' j mem rfl, clear j (.inr mem)⟩⟩
  · rintro ⟨⟨first, clear⟩, second, clear'⟩
    refine ⟨⟨first, second, fun i mem j mem' same => (clear' j mem').1 (same ▸ mem)⟩, ?_⟩
    rintro j (mem | mem)
    · exact clear j mem
    · exact (clear' j mem).2

theorem fresh_cons {i : Nat} :
    Fresh a (i :: is) ↔ a[i]? = some false ∧ Fresh (a.set i true) is := by
  have single : Fresh a [i] ↔ a[i]? = some false := by simp [Fresh]
  rw [← List.singleton_append, fresh_append, single]
  rfl

theorem cover_eq_ok : cover a is = .ok b ↔ Fresh a is ∧ b = marked a is := by
  induction is generalizing a with
  | nil =>
    rw [cover, pure_eq_ok]
    exact ⟨fun h => ⟨⟨.nil, by simp⟩, h.symm⟩, fun h => h.2.symm⟩
  | cons i is ih =>
    simp only [cover, bind_eq_ok, require_eq_ok, ih, fresh_cons, exists_const, and_assoc]
    rfl

end Marking

section Ranges

theorem bisect_iff {numbers : List Int} (sorted : numbers.Pairwise (· < ·)) {first last : Int} :
    (∀ next ∈ numbers[bisectLeft numbers first]?, next > last) ↔
      ∀ number ∈ numbers, ¬ (first ≤ number ∧ number ≤ last) := by
  induction numbers with
  | nil => simp
  | cons number rest ih =>
    rw [List.pairwise_cons] at sorted
    rw [List.forall_mem_cons, bisectLeft, List.takeWhile_cons]
    by_cases below : number < first
    · simp only [below, decide_true, if_true, List.length_cons, List.getElem?_cons_succ]
      rw [← bisectLeft, ih sorted.2]
      exact ⟨fun h => ⟨fun inside => by omega, h⟩, fun h => h.2⟩
    · simp only [below, decide_false, Bool.false_eq_true, if_false, List.length_nil,
        List.getElem?_cons_zero, Option.mem_def, Option.some.injEq, forall_eq']
      constructor
      · intro above
        exact ⟨by omega, fun other mem => by
          have := sorted.1 other mem
          omega⟩
      · intro outside
        have := outside.1
        omega

instance : Std.Total RangeLE := ⟨fun a b => by unfold RangeLE; omega⟩

instance : IsTrans (Int × Int) RangeLE := ⟨fun a b c => by unfold RangeLE; omega⟩

theorem ascending_eq_ok {ranges : List (Int × Int)} {p : Int}
    (valid : ∀ range ∈ ranges, range.1 ≤ range.2) : ascending p ranges = .ok () ↔
      (∀ range ∈ ranges, p < range.1) ∧ ranges.Pairwise fun a b => a.2 < b.1 := by
  induction ranges generalizing p with
  | nil => simp [ascending]
  | cons range rest ih =>
    rw [List.forall_mem_cons] at valid
    simp only [ascending, bind_eq_ok, require_eq_ok, exists_const, ih valid.2, List.forall_mem_cons,
      List.pairwise_cons]
    constructor
    · rintro ⟨first, later, apart⟩
      exact ⟨⟨first, fun next mem => by
        have := later next mem
        omega⟩, later, apart⟩
    · rintro ⟨⟨first, _⟩, later, apart⟩
      exact ⟨first, later, apart⟩

theorem ascending_iff {ranges : List (Int × Int)}
    (valid : ∀ range ∈ ranges, 1 ≤ range.1 ∧ range.1 ≤ range.2) :
    ascending 0 (ranges.insertionSort RangeLE) = .ok () ↔
      ranges.Pairwise fun a b => a.2 < b.1 ∨ b.2 < a.1 := by
  have perm := List.perm_insertionSort RangeLE ranges
  have sorted := List.pairwise_insertionSort RangeLE ranges
  have valid' : ∀ range ∈ ranges.insertionSort RangeLE, 1 ≤ range.1 ∧ range.1 ≤ range.2 :=
    fun range mem => valid range (perm.subset mem)
  rw [← perm.pairwise_iff fun {a b} h => h.symm, ascending_eq_ok fun range mem => (valid' range mem).2]
  constructor
  · rintro ⟨_, apart⟩
    exact apart.imp fun h => .inl h
  · intro apart
    refine ⟨fun range mem => (valid' range mem).1, ?_⟩
    refine (sorted.and apart).imp_of_mem fun {a b} mem mem' h => ?_
    have := (valid' a mem).2
    have := (valid' b mem').2
    unfold RangeLE at h
    omega

end Ranges

section Readings

variable {ledger : List Source}

theorem validateSource_eq_ok {number : Nat} {previous : Int} {item : Json} {source : Source} :
    validateSource number previous item = .ok source ↔ IsEntry (item, number) source ∧
      previous < source.acquisitionSequence ∧ source.acquisitionSequence < 2 ^ 63 ∧
      isDigest source.digest := by
  simp only [validateSource, IsEntry, bind_eq_ok, mapError_eq_ok, orFail_eq_ok, require_eq_ok,
    pure_eq_ok, exists_const]
  constructor
  · rintro ⟨fields, keys, _, named, native, acquired, digest, digested, ⟨rfl, valid⟩, rfl⟩
    exact ⟨⟨fields, keys, named, acquired, digested⟩, valid⟩
  · rintro ⟨⟨fields, keys, named, acquired, digested⟩, valid⟩
    exact ⟨fields, keys, _, named, _, acquired, _, digested, ⟨rfl, valid⟩, rfl⟩

theorem validateSources_eq_ok {items : List Json} {number : Nat} {previous : Int} :
    validateSources number previous items = .ok ledger ↔
      List.Forall₂ IsEntry (items.zipIdx number) ledger ∧
      (∀ source ∈ ledger, previous < source.acquisitionSequence ∧
        source.acquisitionSequence < 2 ^ 63 ∧ isDigest source.digest) ∧
      (ledger.map Source.acquisitionSequence).Pairwise (· < ·) := by
  induction items generalizing number previous ledger with
  | nil =>
    simp only [validateSources, pure_eq_ok, List.zipIdx_nil, List.forall₂_nil_left_iff]
    constructor
    · rintro rfl
      simp
    · rintro ⟨rfl, _⟩
      rfl
  | cons item rest ih =>
    simp only [validateSources, bind_eq_ok, validateSource_eq_ok, ih, pure_eq_ok, List.zipIdx_cons,
      List.forall₂_cons_left_iff]
    constructor
    · rintro ⟨source, ⟨entry, valid⟩, sources, ⟨entries, bounded, ascending⟩, rfl⟩
      refine ⟨⟨source, sources, entry, entries, rfl⟩, ?_, ?_⟩
      · rw [List.forall_mem_cons]
        exact ⟨valid, fun next mem => ⟨lt_trans valid.1 (bounded next mem).1, (bounded next mem).2⟩⟩
      · rw [List.map_cons, List.pairwise_cons, List.forall_mem_map]
        exact ⟨fun next mem => (bounded next mem).1, ascending⟩
    · rintro ⟨⟨source, sources, entry, entries, rfl⟩, bounded, ascending⟩
      rw [List.forall_mem_cons] at bounded
      rw [List.map_cons, List.pairwise_cons, List.forall_mem_map] at ascending
      exact ⟨source, ⟨entry, bounded.1⟩, sources,
        ⟨entries, fun next mem => ⟨ascending.1 next mem, (bounded.2 next mem).2⟩, ascending.2⟩, rfl⟩

/-- The index that a frame covers. -/
def Frame.index (frame : Frame) : Nat := (frame.sequence.getD 0 - 1).toNat

/-- The step of the loop over the frames. -/
def Frame.step (ledger : List Source) (state : Durable) (frame : Frame) : Option Durable := do
  let number ← frame.sequence
  let source ← ledger[(number - 1).toNat]?
  guard (1 ≤ number ∧ state.previousSequence < number ∧
    frame.acquisition = some source.acquisitionSequence ∧ frame.digest = some source.digest ∧
    state.covered[(number - 1).toNat]? = some false)
  pure ⟨state.covered.set (number - 1).toNat true, number⟩

theorem Frame.step_eq_some {state after : Durable} {frame : Frame} :
    frame.step ledger state = some after ↔ frame.Names ledger ∧
      (∀ number ∈ frame.sequence, state.previousSequence < number ∧ after.previousSequence = number) ∧
      state.covered[frame.index]? = some false ∧
      after.covered = state.covered.set frame.index true := by
  obtain ⟨_ | number, acquisition, digest⟩ := frame
  · simp [Frame.step, Frame.Names]
  · simp only [Frame.step, Frame.Names, Frame.index, Option.bind_eq_bind, Option.bind_some,
      Option.bind_eq_some_iff, Option.guard_eq_some', Option.pure_def, Option.some.injEq,
      Option.mem_def, forall_eq', exists_const, Option.getD_some]
    constructor
    · rintro ⟨source, found, ⟨positive, later, acquired, digested, clear⟩, rfl⟩
      exact ⟨⟨number, source, rfl, positive, found, acquired, digested⟩, ⟨later, rfl⟩, clear, rfl⟩
    · rintro ⟨⟨_, source, rfl, positive, found, acquired, digested⟩, ⟨later, same⟩, clear, covers⟩
      refine ⟨source, found, ⟨positive, later, acquired, digested, clear⟩, ?_⟩
      cases after
      simp_all

theorem validateFrame_eq_ok {state after : Durable} {frame : Json} :
    validateFrame ledger state frame = .ok after ↔
      ∃ read, readFrame frame = some read ∧ read.step ledger state = some after := by
  simp only [validateFrame, readFrame, Frame.step, bind_eq_ok, orFail_eq_ok, require_eq_ok,
    pure_eq_ok, exists_const, Option.bind_eq_bind, Option.bind_eq_some_iff, Option.guard_eq_some',
    Option.pure_def, Option.some.injEq]
  constructor
  · rintro ⟨fields, dict, number, named, inside, later, source, found, agrees, rfl⟩
    exact ⟨_, ⟨fields, dict, rfl⟩, number, named, source, found, ⟨inside.1, later, agrees⟩, rfl⟩
  · rintro ⟨_, ⟨fields, dict, rfl⟩, number, named, source, found, ⟨positive, later, agrees⟩, rfl⟩
    obtain ⟨inside, _⟩ := List.getElem?_eq_some_iff.mp found
    exact ⟨fields, dict, number, named, ⟨positive, by omega⟩, later, source, found, agrees, rfl⟩

theorem validateFrames_eq_ok {state after : Durable} {items : List Json} :
    items.foldlM (validateFrame ledger) state = .ok after ↔ ∃ frames,
      items.mapM readFrame = some frames ∧
      frames.foldlM (fun state frame => frame.step ledger state) state = some after :=
  @foldlM_reads _ _ _ _ (validateFrame ledger) readFrame
    (fun state frame => frame.step ledger state) (fun _ _ _ => validateFrame_eq_ok) items state after

theorem validateSegment_eq_ok {state after : Durable} {segment : Json} :
    validateSegment ledger state segment = .ok after ↔ ∃ frames, readSegment segment = some frames ∧
      frames.foldlM (fun state frame => frame.step ledger state) state = some after := by
  simp only [validateSegment, readSegment, bind_eq_ok, orFail_eq_ok, require_eq_ok, exists_const,
    validateFrames_eq_ok, Option.bind_eq_bind, Option.guard_eq_some',
    Option.bind_eq_some_iff]
  constructor
  · rintro ⟨fields, dict, items, ⟨_, found, list⟩, room, frames, reads, fold⟩
    exact ⟨frames, ⟨fields, dict, items, ⟨_, found, list⟩, room, reads⟩, fold⟩
  · rintro ⟨frames, ⟨fields, dict, items, ⟨_, found, list⟩, room, reads⟩, fold⟩
    exact ⟨fields, dict, items, ⟨_, found, list⟩, room, frames, reads, fold⟩

theorem frames_iff {frames : List Frame} {state : Durable} {covered : List Bool} :
    (∃ previous, frames.foldlM (fun state frame => frame.step ledger state) state =
      some ⟨covered, previous⟩) ↔ (∀ frame ∈ frames, frame.Names ledger) ∧
      (state.previousSequence :: frames.filterMap Frame.sequence).Pairwise (· < ·) ∧
      Fresh state.covered (frames.map Frame.index) ∧
      covered = marked state.covered (frames.map Frame.index) := by
  induction frames generalizing state with
  | nil =>
    simp only [List.foldlM_nil, Option.pure_def, Option.some.injEq]
    constructor
    · rintro ⟨previous, rfl⟩
      exact ⟨by simp, by simp, ⟨.nil, by simp⟩, rfl⟩
    · rintro ⟨_, _, _, rfl⟩
      exact ⟨state.previousSequence, rfl⟩
  | cons frame rest ih =>
    simp only [List.foldlM_cons, Option.bind_eq_bind, Option.bind_eq_some_iff, List.forall_mem_cons,
      List.map_cons, fresh_cons]
    constructor
    · rintro ⟨previous, middle, first, fold⟩
      obtain ⟨named, later, clear, covers⟩ := Frame.step_eq_some.mp first
      obtain ⟨names, ordered, fresh, result⟩ := ih.mp ⟨previous, fold⟩
      obtain ⟨number, source, sequence, _⟩ := named
      obtain ⟨later, same⟩ := later number sequence
      rw [same] at ordered
      rw [covers] at fresh result
      refine ⟨⟨⟨number, source, sequence, by assumption⟩, names⟩, ?_, ⟨clear, fresh⟩, result⟩
      rw [List.filterMap_cons, sequence, List.pairwise_cons_cons_iff_of_trans]
      exact ⟨later, ordered⟩
    · rintro ⟨⟨named, names⟩, ordered, ⟨clear, fresh⟩, result⟩
      obtain ⟨number, source, sequence, facts⟩ := named
      rw [List.filterMap_cons, sequence, List.pairwise_cons_cons_iff_of_trans] at ordered
      obtain ⟨previous, fold⟩ := (@ih ⟨state.covered.set frame.index true, number⟩).mpr
        ⟨names, ordered.2, fresh, result⟩
      refine ⟨previous, _, Frame.step_eq_some.mpr ⟨⟨number, source, sequence, facts⟩, ?_, clear, rfl⟩, fold⟩
      intro other found
      cases sequence.symm.trans found
      exact ⟨ordered.1, rfl⟩

/-- The indices that a loss covers. -/
def Loss.indices : Loss → List Nat
  | .frames true first last _ => List.range' (first - 1).toNat (last - (first - 1)).toNat
  | _ => []

instance (loss : Loss) : Decidable (loss.Names ledger) :=
  match loss with
  | .frames .. => inferInstanceAs (Decidable (_ ∧ _))
  | .native .. => inferInstanceAs (Decidable (∀ source ∈ ledger, _))
  | .bare .. => inferInstanceAs (Decidable (_ ∧ _))

instance (covered : List Bool) (indices : List Nat) : Decidable (Fresh covered indices) :=
  inferInstanceAs (Decidable (_ ∧ _))

/-- The step of the loop over the losses. -/
def Loss.step (ledger : List Source) (state : Lost) (loss : Loss) : Option Lost :=
  if loss.Names ledger ∧ Fresh state.covered loss.indices then
    some ⟨marked state.covered loss.indices, state.nativeRanges ++ loss.nativeRanges⟩
  else none

theorem range_eq_ok {value : Json} {maximum : Int} {range' : Int × Int} :
    range value maximum = .ok range' ↔ readRange value = some range' ∧
      1 ≤ range'.1 ∧ range'.1 ≤ range'.2 ∧ range'.2 ≤ maximum := by
  simp only [range, readRange, bind_eq_ok, mapError_eq_ok, orFail_eq_ok, require_eq_ok, pure_eq_ok,
    exists_const, Option.bind_eq_bind, Option.bind_eq_some_iff, toOption_eq_some, Option.pure_def,
    Option.some.injEq]
  constructor
  · rintro ⟨fields, dict, first, found, last, found', valid, rfl⟩
    exact ⟨⟨fields, dict, first, found, last, found', rfl⟩, valid⟩
  · rintro ⟨⟨fields, dict, first, found, last, found', rfl⟩, valid⟩
    exact ⟨fields, dict, first, found, last, found', valid, rfl⟩

section Losses

variable {state after : Lost} {fields : Fields} {value : Json}

theorem readClass_eq_some {others : List String} {bytes : Bool}
    (apart : ∀ name ∈ others, name ∉ byteLosses) : readClass fields others = some bytes ↔
      ∃ name, strField fields "lossClass" = some name ∧
        if bytes then name ∈ byteLosses else name ∈ others := by
  simp only [readClass, Option.bind_eq_bind, Option.bind_eq_some_iff]
  refine exists_congr fun name => and_congr_right fun _ => ?_
  by_cases lost : name ∈ byteLosses
  · cases bytes
    · simp only [lost, if_true, Bool.false_eq_true, if_false, Option.some.injEq]
      exact ⟨nofun, fun mem => absurd lost (apart name mem)⟩
    · simp [lost]
  · cases bytes <;> simp [lost]

theorem readAcquisition_eq_some {acquisition : Option Int} :
    readAcquisition fields = some acquisition ↔
      intField fields "acquisitionSequence" = acquisition ∧
        ((field fields "acquisitionSequence").isSome → acquisition.isSome) := by
  simp only [readAcquisition, intField]
  cases field fields "acquisitionSequence" with
  | none => simp
  | some value =>
    cases number : asInt value with
    | none => cases acquisition <;> simp [number]
    | some n => cases acquisition <;> simp [number]

theorem Loss.step_eq_some {loss : Loss} : loss.step ledger state = some after ↔
    loss.Names ledger ∧ Fresh state.covered loss.indices ∧
      after = ⟨marked state.covered loss.indices, state.nativeRanges ++ loss.nativeRanges⟩ := by
  rw [Loss.step, Option.ite_none_right_eq_some, Option.some.injEq, and_assoc, eq_comm (a := after)]

theorem intField_present {key : String} {n : Int} (h : intField fields key = some n) :
    (field fields key).isSome := by
  obtain ⟨value, found, _⟩ := Option.bind_eq_some_iff.mp h
  rw [found]
  rfl

/-- The number of a loss of frames is that of its only frame. -/
theorem acquisition_iff {first last : Int} (inside : 1 ≤ first ∧ first ≤ last ∧ last ≤ ledger.length) :
    ((field fields "acquisitionSequence").isSome → first = last ∧
      intField fields "acquisitionSequence" =
        ledger[(first - 1).toNat]?.map Source.acquisitionSequence) ↔
    ∃ acquisition, readAcquisition fields = some acquisition ∧ ∀ number ∈ acquisition,
      first = last ∧ ledger[(first - 1).toNat]?.map Source.acquisitionSequence = some number := by
  simp only [readAcquisition_eq_some]
  constructor
  · intro agrees
    refine ⟨_, ⟨rfl, fun present => ?_⟩, fun number found => ?_⟩
    · have admitted : (first - 1).toNat < ledger.length := by omega
      rw [(agrees present).2, Option.isSome_map, List.getElem?_eq_getElem admitted]
      rfl
    · have same := agrees (intField_present found)
      exact ⟨same.1, same.2.symm.trans found⟩
  · rintro ⟨acquisition, ⟨rfl, present⟩, agrees⟩ exists'
    obtain ⟨number, found⟩ := Option.isSome_iff_exists.mp (present exists')
    have same := agrees number found
    exact ⟨same.1, found.trans same.2.symm⟩

theorem validateFrameLoss_eq_ok : validateFrameLoss ledger state fields value = .ok after ↔
    ∃ loss, readFrameLoss fields value = some loss ∧ loss.step ledger state = some after := by
  have apart : ∀ name ∈ ["unknown-acquisition-interval"], name ∉ byteLosses := by decide
  simp only [validateFrameLoss, readFrameLoss, bind_eq_ok, range_eq_ok, require_eq_ok, exists_const,
    Option.bind_eq_bind, Option.bind_eq_some_iff, readClass_eq_some apart,
    Loss.step_eq_some, Option.pure_def, Option.some.injEq]
  constructor
  · rintro ⟨ends, ⟨range, valid⟩, kind, acquired, rest⟩
    obtain ⟨acquisition, found, agrees⟩ := (acquisition_iff valid).mp acquired
    by_cases bytes : ∃ name ∈ byteLosses, strField fields "lossClass" = some name
    · rw [if_pos bytes] at rest
      obtain ⟨name, lost, same⟩ := bytes
      simp only [bind_eq_ok, cover_eq_ok, pure_eq_ok] at rest
      obtain ⟨covered, ⟨fresh, rfl⟩, rfl⟩ := rest
      exact ⟨_, ⟨ends, range, true, ⟨name, same, lost⟩, acquisition, found, rfl⟩,
        ⟨valid, agrees⟩, fresh, by simp [Loss.nativeRanges, Loss.indices]⟩
    · rw [if_neg bytes, pure_eq_ok] at rest
      obtain ⟨name, lost, same⟩ | unknown := kind
      · exact absurd ⟨name, lost, same⟩ bytes
      · exact ⟨_, ⟨ends, range, false, ⟨_, unknown, by simp⟩, acquisition, found, rfl⟩,
          ⟨valid, agrees⟩, ⟨.nil, by simp [Loss.indices]⟩,
          by simp [Loss.nativeRanges, Loss.indices, marked, ← rest]⟩
  · rintro ⟨_, ⟨ends, range, bytes, ⟨name, kind, lost⟩, acquisition, found, rfl⟩,
      ⟨valid, agrees⟩, fresh, rfl⟩
    refine ⟨ends, ⟨range, valid⟩, ?_, (acquisition_iff valid).mpr ⟨acquisition, found, agrees⟩, ?_⟩
    · cases bytes with
      | true => exact .inl ⟨name, lost, kind⟩
      | false =>
        rw [if_neg Bool.false_ne_true, List.mem_singleton] at lost
        exact .inr (lost ▸ kind)
    · cases bytes with
      | true =>
        rw [if_pos ⟨name, lost, kind⟩]
        simp only [bind_eq_ok, cover_eq_ok, pure_eq_ok]
        exact ⟨_, ⟨fresh, rfl⟩, by simp [Loss.nativeRanges, Loss.indices]⟩
      | false =>
        rw [if_neg Bool.false_ne_true] at lost
        rw [if_neg, pure_eq_ok]
        · simp [Loss.nativeRanges, Loss.indices, marked]
        · rintro ⟨other, mem, same⟩
          cases kind.symm.trans same
          exact apart name lost mem

theorem validateNativeLoss_eq_ok
    (ascends : (ledger.map Source.acquisitionSequence).Pairwise (· < ·)) :
    validateNativeLoss ledger state fields value = .ok after ↔
      ∃ loss, readNativeLoss fields value = some loss ∧ loss.step ledger state = some after := by
  simp only [validateNativeLoss, readNativeLoss, bind_eq_ok, range_eq_ok, require_eq_ok,
    exists_const, bisect_iff ascends, List.forall_mem_map, pure_eq_ok, Option.bind_eq_bind,
    Option.bind_eq_some_iff, Option.guard_eq_some', Loss.step_eq_some, Option.pure_def,
    Option.some.injEq]
  constructor
  · rintro ⟨ends, ⟨range, valid⟩, ⟨⟨name, lost, kind⟩, ⟨place, near, stage⟩, unnumbered⟩, apart, rfl⟩
    exact ⟨_, ⟨ends, range, name, kind, place, stage, ⟨valid, lost, near, unnumbered⟩, rfl⟩, apart,
      ⟨.nil, by simp [Loss.indices]⟩, rfl⟩
  · rintro ⟨_, ⟨ends, range, name, kind, place, stage, ⟨valid, lost, near, unnumbered⟩, rfl⟩, apart,
      _, rfl⟩
    exact ⟨ends, ⟨range, valid⟩, ⟨⟨name, lost, kind⟩, ⟨place, near, stage⟩, unnumbered⟩, apart, rfl⟩

theorem validateLoss_eq_ok {loss : Json}
    (ascends : (ledger.map Source.acquisitionSequence).Pairwise (· < ·)) :
    validateLoss ledger state loss = .ok after ↔
      ∃ read, readLoss loss = some read ∧ read.step ledger state = some after := by
  simp only [validateLoss, readLoss, bind_eq_ok, orFail_eq_ok, Option.bind_eq_bind,
    Option.bind_eq_some_iff]
  cases dict : asDict loss with
  | none => simp
  | some fields =>
    simp only [Option.some.injEq, exists_eq_left']
    cases field fields "recordingFrameRange" with
    | some value =>
      cases field fields "nativeSequenceRange" with
      | some _ => exact ⟨(fun h => by cases h), by rintro ⟨_, ⟨⟩, _⟩⟩
      | none => exact validateFrameLoss_eq_ok
    | none =>
      cases field fields "nativeSequenceRange" with
      | some value => exact validateNativeLoss_eq_ok ascends
      | none =>
        have apart : ∀ name ∈ ["not-acquired", "unknown-acquisition-interval"],
          name ∉ byteLosses := by decide
        simp only [readBareLoss, bind_eq_ok, require_eq_ok, exists_const, pure_eq_ok,
          Option.bind_eq_bind, Option.bind_eq_some_iff, readClass_eq_some apart, Loss.step_eq_some,
          Option.pure_def, Option.some.injEq]
        constructor
        · rintro ⟨⟨⟨name, mem, kind⟩, unnumbered⟩, rfl⟩
          exact ⟨_, ⟨false, ⟨name, kind, mem⟩, none, by rw [readAcquisition, unnumbered], rfl⟩,
            ⟨rfl, rfl⟩, ⟨.nil, by simp [Loss.indices]⟩,
            by simp [Loss.nativeRanges, Loss.indices, marked]⟩
        · rintro ⟨_, ⟨bytes, ⟨name, kind, mem⟩, acquisition, found, rfl⟩, ⟨rfl, rfl⟩, _, rfl⟩
          refine ⟨⟨⟨name, mem, kind⟩, ?_⟩, by simp [Loss.nativeRanges, Loss.indices, marked]⟩
          rw [← Option.not_isSome_iff_eq_none]
          intro present
          exact absurd ((readAcquisition_eq_some.mp found).2 present) Bool.false_ne_true

end Losses

theorem losses_iff {losses : List Loss} {state after : Lost} :
    losses.foldlM (fun state loss => loss.step ledger state) state = some after ↔
      (∀ loss ∈ losses, loss.Names ledger) ∧ Fresh state.covered (losses.flatMap Loss.indices) ∧
      after = ⟨marked state.covered (losses.flatMap Loss.indices),
        state.nativeRanges ++ losses.flatMap Loss.nativeRanges⟩ := by
  induction losses generalizing state with
  | nil =>
    simp only [List.foldlM_nil, Option.pure_def, Option.some.injEq]
    constructor
    · rintro rfl
      exact ⟨by simp, ⟨.nil, by simp⟩, by simp [marked]⟩
    · rintro ⟨_, _, rfl⟩
      simp [marked]
  | cons loss rest ih =>
    simp only [List.foldlM_cons, Option.bind_eq_bind, Option.bind_eq_some_iff, List.forall_mem_cons,
      List.flatMap_cons, fresh_append, marked_append, Loss.step_eq_some, ih]
    constructor
    · rintro ⟨_, ⟨named, fresh, rfl⟩, names, fresh', rfl⟩
      exact ⟨⟨named, names⟩, ⟨fresh, fresh'⟩, by rw [List.append_assoc]⟩
    · rintro ⟨⟨named, names⟩, ⟨fresh, fresh'⟩, rfl⟩
      exact ⟨_, ⟨named, fresh, rfl⟩, names, fresh', by rw [List.append_assoc]⟩

end Readings

section Counting

variable {ledger : List Source} {frames : List Frame} {losses : List Loss}

/-- All indices that are covered. -/
def outcomes (frames : List Frame) (losses : List Loss) : List Nat :=
  frames.map Frame.index ++ losses.flatMap Loss.indices

theorem count_frames (named : ∀ frame ∈ frames, frame.Names ledger) (i : Nat) :
    (frames.map Frame.index).count i = frames.countP (·.sequence = some ((i : Int) + 1)) := by
  rw [List.count, List.countP_map]
  refine List.countP_congr fun frame mem => ?_
  obtain ⟨number, source, sequence, positive, _⟩ := named frame mem
  simp only [Function.comp_apply, Frame.index, sequence, Option.getD_some, beq_iff_eq,
    decide_eq_true_eq, Option.some.injEq]
  omega

theorem count_indices {loss : Loss} (named : loss.Names ledger) (i : Nat) :
    loss.indices.count i = if loss.Loses ((i : Int) + 1) then 1 else 0 := by
  cases loss with
  | frames bytes first last acquisition =>
    cases bytes with
    | false => simp [Loss.indices, Loss.Loses]
    | true =>
      have inside := named.1
      rw [Loss.indices, (List.nodup_range' 1).count]
      refine if_congr ?_ rfl rfl
      simp only [List.mem_range'_1, Loss.Loses, true_and]
      omega
  | native first last => simp [Loss.indices, Loss.Loses]
  | bare bytes acquisition => simp [Loss.indices, Loss.Loses]

theorem count_losses (named : ∀ loss ∈ losses, loss.Names ledger) (i : Nat) :
    (losses.flatMap Loss.indices).count i = losses.countP (Loss.Loses ((i : Int) + 1)) := by
  induction losses with
  | nil => rfl
  | cons loss rest ih =>
    rw [List.forall_mem_cons] at named
    rw [List.flatMap_cons, List.count_append, List.countP_cons, ih named.2, count_indices named.1,
      Nat.add_comm]
    simp only [decide_eq_true_eq]

theorem outcomes_lt (named : ∀ frame ∈ frames, frame.Names ledger)
    (located : ∀ loss ∈ losses, loss.Names ledger) :
    ∀ i ∈ outcomes frames losses, i < ledger.length := by
  intro i mem
  rw [outcomes, List.mem_append, List.mem_map, List.mem_flatMap] at mem
  obtain ⟨frame, mem, rfl⟩ | ⟨loss, mem, inside⟩ := mem
  · obtain ⟨number, source, sequence, _, found, _⟩ := named frame mem
    rw [Frame.index, sequence]
    exact (List.getElem?_eq_some_iff.mp found).1
  · have names := located loss mem
    cases loss with
    | frames bytes first last acquisition =>
      cases bytes with
      | false => exact absurd inside List.not_mem_nil
      | true =>
        have bounds := names.1
        rw [Loss.indices, List.mem_range'_1] at inside
        omega
    | native first last => exact absurd inside List.not_mem_nil
    | bare bytes acquisition => exact absurd inside List.not_mem_nil

theorem once_iff (named : ∀ frame ∈ frames, frame.Names ledger)
    (located : ∀ loss ∈ losses, loss.Names ledger) :
    (∀ number : Int, 1 ≤ number → number ≤ ledger.length →
      frames.countP (·.sequence = some number) + losses.countP (Loss.Loses number) = 1) ↔
    (outcomes frames losses).Nodup ∧ ∀ i < ledger.length, i ∈ outcomes frames losses := by
  have count (i : Nat) : (outcomes frames losses).count i =
      frames.countP (·.sequence = some ((i : Int) + 1)) +
        losses.countP (Loss.Loses ((i : Int) + 1)) := by
    rw [outcomes, List.count_append, count_frames named, count_losses located]
  constructor
  · intro once
    have single (i : Nat) (inside : i < ledger.length) : (outcomes frames losses).count i = 1 :=
      (count i).trans (once _ (by omega) (by omega))
    refine ⟨List.nodup_iff_count_le_one.mpr fun i => ?_, fun i inside => ?_⟩
    · by_cases mem : i ∈ outcomes frames losses
      · exact (single i (outcomes_lt named located i mem)).le
      · rw [List.count_eq_zero_of_not_mem mem]
        exact Nat.zero_le 1
    · exact List.count_pos_iff.mp (single i inside ▸ Nat.one_pos)
  · rintro ⟨nodup, all⟩ number positive inside
    obtain ⟨i, rfl⟩ : ∃ i : Nat, number = (i : Int) + 1 := ⟨(number - 1).toNat, by omega⟩
    rw [← count, nodup.count, if_pos (all i (by omega))]

theorem covered_iff {n : Nat} {indices : List Nat} :
    (∀ outcome ∈ marked (List.replicate n false) indices, outcome = true) ↔
      ∀ i < n, i ∈ indices := by
  constructor
  · intro all i inside
    by_contra absent
    have here : (marked (List.replicate n false) indices)[i]? = some false := by
      rw [marked_get?, if_neg absent, List.getElem?_replicate, if_pos inside]
    exact Bool.false_ne_true (all false (List.mem_of_getElem? here))
  · intro all outcome mem
    obtain ⟨i, found⟩ := List.mem_iff_getElem?.mp mem
    rw [marked_get?] at found
    split at found
    · obtain ⟨_, _, rfl⟩ := Option.map_eq_some_iff.mp found
      rfl
    · rename_i absent
      rw [List.getElem?_replicate] at found
      split at found
      · rename_i inside
        exact absurd (all i inside) absent
      · nomatch found

theorem fresh_replicate {n : Nat} {indices : List Nat} (inside : ∀ i ∈ indices, i < n) :
    Fresh (List.replicate n false) indices ↔ indices.Nodup := by
  refine ⟨fun fresh => fresh.1, fun nodup => ⟨nodup, fun i mem => ?_⟩⟩
  rw [List.getElem?_replicate, if_pos (inside i mem)]

end Counting

theorem isLedger_iff {sources : Json} {ledger : List Source} : IsLedger sources ledger ↔
    ∃ items, asList sources = some items ∧ items.length ≤ maxSourceFrames ∧
      validateSources 1 0 items = .ok ledger := by
  simp only [validateSources_eq_ok]
  constructor
  · rintro ⟨⟨items, list, room, entries⟩, bounded, ascending⟩
    exact ⟨items, list, room, entries, bounded, ascending⟩
  · rintro ⟨items, list, room, entries, bounded, ascending⟩
    exact ⟨⟨items, list, room, entries⟩, bounded, ascending⟩

theorem foldlM_segments {ledger : List Source} {segments : List Json} {state after : Durable} :
    segments.foldlM (validateSegment ledger) state = .ok after ↔ ∃ lists,
      segments.mapM readSegment = some lists ∧
      lists.flatten.foldlM (fun state frame => frame.step ledger state) state = some after := by
  rw [@foldlM_reads _ _ _ _ (validateSegment ledger) readSegment
    (fun state frames => frames.foldlM (fun state frame => frame.step ledger state) state)
    (fun _ _ _ => validateSegment_eq_ok) segments state after]
  simp only [foldlM_flatten]

theorem foldlM_losses {ledger : List Source} {losses : List Json} {state after : Lost}
    (ascends : (ledger.map Source.acquisitionSequence).Pairwise (· < ·)) :
    losses.foldlM (validateLoss ledger) state = .ok after ↔ ∃ read,
      losses.mapM readLoss = some read ∧
      read.foldlM (fun state loss => loss.step ledger state) state = some after :=
  @foldlM_reads _ _ _ _ (validateLoss ledger) readLoss (fun state loss => loss.step ledger state)
    (fun _ _ _ => validateLoss_eq_ok ascends) losses state after

theorem ExactCover.ordered_zero {ledger : List Source} {frames : List Frame} {losses : List Loss}
    (cover : ExactCover ledger frames losses) :
    ((0 : Int) :: frames.filterMap Frame.sequence).Pairwise (· < ·) := by
  rw [List.pairwise_cons]
  refine ⟨fun number mem => ?_, cover.ordered⟩
  obtain ⟨frame, inside, found⟩ := List.mem_filterMap.mp mem
  obtain ⟨number', source, sequence, positive, _⟩ := cover.named frame inside
  cases sequence.symm.trans found
  exact positive

theorem readLoss_valid {json : Json} {loss : Loss} (h : readLoss json = some loss) :
    ∀ range ∈ loss.nativeRanges, 1 ≤ range.1 ∧ range.1 ≤ range.2 := by
  cases loss with
  | frames bytes first last acquisition => exact fun _ mem => absurd mem List.not_mem_nil
  | bare bytes acquisition => exact fun _ mem => absurd mem List.not_mem_nil
  | native first last =>
    simp only [readLoss, Option.bind_eq_bind, Option.bind_eq_some_iff] at h
    obtain ⟨fields, _, h⟩ := h
    split at h
    · nomatch h
    · simp only [readFrameLoss, Option.bind_eq_bind, Option.bind_eq_some_iff, Option.pure_def,
        Option.some.injEq] at h
      obtain ⟨_, _, _, _, _, _, h⟩ := h
      nomatch h
    · simp only [readNativeLoss, Option.bind_eq_bind, Option.bind_eq_some_iff,
        Option.guard_eq_some', exists_const, Option.pure_def, Option.some.injEq] at h
      obtain ⟨_, _, _, _, _, _, ⟨valid, _⟩, same⟩ := h
      cases same
      intro range mem
      rw [Loss.nativeRanges, List.mem_singleton] at mem
      rw [mem]
      exact ⟨valid.1, valid.2.1⟩
    · simp only [readBareLoss, Option.bind_eq_bind, Option.bind_eq_some_iff, Option.pure_def,
        Option.some.injEq] at h
      obtain ⟨_, _, _, _, h⟩ := h
      nomatch h

theorem mem_of_mapM {items : List Json} {losses : List Loss} (h : items.mapM readLoss = some losses)
    {loss : Loss} (mem : loss ∈ losses) : ∃ json, readLoss json = some loss := by
  have reads := Json.forall₂_of_mapM h
  clear h
  induction reads with
  | nil => exact absurd mem List.not_mem_nil
  | cons read _ ih =>
    obtain rfl | later := List.mem_cons.mp mem
    · exact ⟨_, read⟩
    · exact ih later

theorem readLosses_valid {items : List Json} {losses : List Loss}
    (h : items.mapM readLoss = some losses) :
    ∀ range ∈ losses.flatMap Loss.nativeRanges, 1 ≤ range.1 ∧ range.1 ≤ range.2 := by
  intro range mem
  obtain ⟨loss, inside, mem⟩ := List.mem_flatMap.mp mem
  obtain ⟨json, read⟩ := mem_of_mapM h inside
  exact readLoss_valid read range mem

theorem coverage_iff {sources segments losses : Json} :
    validateSourceCoverage sources segments losses = .ok () ↔ ∃ ledger frames lost,
      IsLedger sources ledger ∧ readSegments segments = some frames ∧
      readLosses losses = some lost ∧ ExactCover ledger frames lost := by
  simp only [validateSourceCoverage, bind_eq_ok, orFail_eq_ok, require_eq_ok, exists_const]
  constructor
  · rintro ⟨items, list, room, parts, list', room', entries, list'', room'', ledger, read, durable,
      kept, lost, dropped, done, apart, all⟩
    have isLedger : IsLedger sources ledger := isLedger_iff.mpr ⟨items, list, room, read⟩
    obtain ⟨lists, reads, kept⟩ := foldlM_segments.mp kept
    obtain ⟨losses, reads', dropped⟩ := (foldlM_losses isLedger.ascending).mp dropped
    obtain ⟨named, ordered, fresh, covered⟩ := frames_iff.mp ⟨durable.previousSequence, kept⟩
    obtain ⟨located, fresh', rfl⟩ := losses_iff.mp dropped
    simp only [List.nil_append] at apart all fresh'
    rw [covered, ← marked_append] at all
    rw [covered] at fresh'
    have once := (once_iff named located).mpr
      ⟨(fresh_append.mpr ⟨fresh, fresh'⟩).1, covered_iff.mp all⟩
    refine ⟨ledger, lists.flatten, losses, isLedger, ?_, ?_, named, ?_, located, once,
      (ascending_iff (readLosses_valid reads')).mp apart⟩
    · simp [readSegments, list', room', reads]
    · simp [readLosses, list'', room'', reads']
    · exact (List.pairwise_cons.mp ordered).2
  · rintro ⟨ledger, frames, lost, isLedger, segments', losses', cover⟩
    obtain ⟨items, list, room, read⟩ := isLedger_iff.mp isLedger
    simp only [readSegments, Option.bind_eq_bind, Option.bind_eq_some_iff, Option.guard_eq_some',
      exists_const, Option.pure_def, Option.some.injEq] at segments'
    obtain ⟨parts, list', room', lists, reads, rfl⟩ := segments'
    simp only [readLosses, Option.bind_eq_bind, Option.bind_eq_some_iff, Option.guard_eq_some',
      exists_const] at losses'
    obtain ⟨entries, list'', room'', reads'⟩ := losses'
    obtain ⟨nodup, all⟩ := (once_iff cover.named cover.located).mp cover.once
    obtain ⟨fresh, fresh'⟩ := fresh_append.mp
      ((fresh_replicate (outcomes_lt cover.named cover.located)).mpr nodup)
    obtain ⟨previous, kept⟩ := (@frames_iff ledger lists.flatten
      ⟨List.replicate ledger.length false, 0⟩ _).mpr
      ⟨cover.named, cover.ordered_zero, fresh, rfl⟩
    refine ⟨items, list, room, parts, list', room', entries, list'', room'', ledger, read, _,
      foldlM_segments.mpr ⟨lists, reads, kept⟩, _, (foldlM_losses isLedger.ascending).mpr
        ⟨lost, reads', losses_iff.mpr ⟨cover.located, fresh', rfl⟩⟩, ⟨⟩,
      (ascending_iff (readLosses_valid reads')).mpr cover.disjoint, ?_⟩
    rw [← marked_append]
    exact covered_iff.mpr all

/-- The check accepts the exact covers among the documents of its shapes, and rejects any other
document. -/
theorem validateSourceCoverage_iff {sources segments losses : Json} :
    validateSourceCoverage sources segments losses = .ok () ↔ ∃ ledger frames lost,
      IsLedger sources ledger ∧ readSegments segments = some frames ∧
      readLosses losses = some lost ∧ ExactCover ledger frames lost := coverage_iff

end Reproof.Live.Video

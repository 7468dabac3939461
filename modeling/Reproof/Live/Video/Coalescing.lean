import Mathlib.Data.List.Chain
import Reproof.Live.Video.Losses

/-! Merging neighbours keeps what the losses cover. -/

namespace Reproof.Live.Video.Recovery

open Library Contracts

/-- The ranges of the loss are well formed. -/
structure Loss.WellFormed (loss : Loss) : Prop where
  frames : ∀ range ∈ loss.recordingFrameRange, 1 ≤ range.first ∧ range.first ≤ range.last
  native : ∀ range ∈ loss.nativeSequenceRange, 1 ≤ range.first ∧ range.first ≤ range.last
  interval : ∀ interval ∈ loss.recordingInterval, interval.startOffsetMs ≤ interval.endOffsetMs

/-- Two neighbours and the loss that stands for both. -/
structure Merged (previous current merged : Loss) : Prop where
  labels : (merged.lossClass, merged.stage, merged.reason) =
    (previous.lossClass, previous.stage, previous.reason)
  same : (previous.lossClass, previous.stage, previous.reason) =
    (current.lossClass, current.stage, current.reason)
  ranges : (∃ before after, previous.recordingFrameRange = some before ∧
      current.recordingFrameRange = some after ∧ before.last + 1 = after.first ∧
      merged.recordingFrameRange = some ⟨before.first, after.last⟩ ∧
      merged.nativeSequenceRange = previous.nativeSequenceRange ∧
      previous.nativeSequenceRange.isNone = current.nativeSequenceRange.isNone ∧
      merged.acquisitionSequence = none) ∨
    (previous.recordingFrameRange = none ∧ current.recordingFrameRange = none ∧
      merged.recordingFrameRange = none ∧ merged.acquisitionSequence = previous.acquisitionSequence ∧
      ∃ before after, previous.nativeSequenceRange = some before ∧
        current.nativeSequenceRange = some after ∧ before.last + 1 = after.first ∧
        merged.nativeSequenceRange = some ⟨before.first, after.last⟩)
  intervals : ∃ before after, previous.recordingInterval = some before ∧
    current.recordingInterval = some after ∧ before.endOffsetMs ≤ after.startOffsetMs ∧
    merged.recordingInterval = some ⟨before.startOffsetMs, after.endOffsetMs⟩

theorem mergeLosses_eq {previous current : Loss} (can : CanMerge previous current) :
    ∃ merged, mergeLosses previous current = some merged ∧ Merged previous current merged := by
  obtain ⟨same, frames, natives, some, adjacent, before, hbefore, after, hafter, later⟩ := can
  have intervals (merged : Loss) (h : merged.recordingInterval =
      Option.some ⟨before.startOffsetMs, after.endOffsetMs⟩) :
      ∃ first second, previous.recordingInterval = Option.some first ∧
        current.recordingInterval = Option.some second ∧ first.endOffsetMs ≤ second.startOffsetMs ∧
        merged.recordingInterval = Option.some ⟨first.startOffsetMs, second.endOffsetMs⟩ :=
    ⟨before, after, hbefore, hafter, later, h⟩
  cases hp : previous.recordingFrameRange with
  | some range =>
    rw [hp] at adjacent frames
    obtain ⟨_, found, other, hother, adjacent⟩ := adjacent
    cases found
    obtain ⟨merged, merges, labels, ranges, native, acquisition, interval⟩ :
        ∃ merged, mergeLosses previous current = Option.some merged ∧
          (merged.lossClass, merged.stage, merged.reason) =
            (previous.lossClass, previous.stage, previous.reason) ∧
          merged.recordingFrameRange = Option.some ⟨range.first, other.last⟩ ∧
          merged.nativeSequenceRange = previous.nativeSequenceRange ∧
          merged.acquisitionSequence = none ∧
          merged.recordingInterval = Option.some ⟨before.startOffsetMs, after.endOffsetMs⟩ := by
      rw [mergeLosses, hp, Option.mem_def.mp hother, Option.mem_def.mp hbefore,
        Option.mem_def.mp hafter]
      exact ⟨_, rfl, rfl, rfl, rfl, rfl, rfl⟩
    exact ⟨merged, merges, labels, same, .inl ⟨range, other, hp, hother, adjacent, ranges, native,
      natives, acquisition⟩, intervals merged interval⟩
  | none =>
    rw [hp] at adjacent frames
    obtain ⟨range, hrange, other, hother, adjacent⟩ := adjacent
    obtain ⟨merged, merges, labels, ranges, native, acquisition, interval⟩ :
        ∃ merged, mergeLosses previous current = Option.some merged ∧
          (merged.lossClass, merged.stage, merged.reason) =
            (previous.lossClass, previous.stage, previous.reason) ∧
          merged.recordingFrameRange = none ∧
          merged.nativeSequenceRange = Option.some ⟨range.first, other.last⟩ ∧
          merged.acquisitionSequence = previous.acquisitionSequence ∧
          merged.recordingInterval = Option.some ⟨before.startOffsetMs, after.endOffsetMs⟩ := by
      rw [mergeLosses, hp, Option.mem_def.mp hrange, Option.mem_def.mp hother,
        Option.mem_def.mp hbefore, Option.mem_def.mp hafter]
      exact ⟨_, rfl, rfl, rfl, rfl, rfl, rfl⟩
    exact ⟨merged, merges, labels, same, .inr ⟨hp, Option.isNone_iff_eq_none.mp frames.symm, ranges,
      acquisition, range, other, hrange, hother, adjacent, native⟩, intervals merged interval⟩

/-- Two neighbours of a list are merged. -/
inductive Joins : List Loss → List Loss → Prop
  | mk {front rest : List Loss} {previous current merged : Loss} (can : CanMerge previous current)
      (merges : Merged previous current merged) :
      Joins (front ++ previous :: current :: rest) (front ++ merged :: rest)

abbrev JoinsTo : List Loss → List Loss → Prop := Relation.ReflTransGen Joins

theorem coalesceFrom_joinsTo {result losses out : List Loss}
    (h : coalesceFrom result losses = some out) : JoinsTo (result ++ losses) out := by
  induction losses generalizing result with
  | nil =>
    cases h
    rw [List.append_nil]
  | cons loss losses ih =>
    rw [coalesceFrom] at h
    have kept (h : coalesceFrom (result ++ [loss]) losses = some out) :
        JoinsTo (result ++ loss :: losses) out := by
      have joins := ih h
      rwa [List.append_assoc] at joins
    split at h
    · rename_i previous last
      split at h
      · rename_i can
        obtain ⟨merged, found, merges⟩ := mergeLosses_eq can
        rw [found] at h
        obtain ⟨front, rfl⟩ := List.getLast?_eq_some_iff.mp last
        rw [List.dropLast_concat] at h
        have joins := ih h
        rw [List.append_assoc] at joins ⊢
        exact .head (.mk can merges) joins
      · exact kept h
    · exact kept h

theorem coalesceLosses_joinsTo {losses out : List Loss} (h : coalesceLosses losses = .ok out) :
    JoinsTo losses out ∧ out.length ≤ maxLosses := by
  simp only [coalesceLosses, bind_eq_ok, orFail_eq_ok, require_eq_ok, pure_eq_ok] at h
  obtain ⟨_, found, _, room, rfl⟩ := h
  exact ⟨coalesceFrom_joinsTo found, room⟩

section Merging

variable {previous current merged : Loss} {ledger : List Source}

theorem Merged.lossClass (h : Merged previous current merged) :
    previous.lossClass = merged.lossClass ∧ current.lossClass = merged.lossClass := by
  have labels := h.labels
  have same := h.same
  simp only [Prod.mk.injEq] at labels same
  exact ⟨labels.1.symm, same.1.symm.trans labels.1.symm⟩

theorem Merged.stage (h : Merged previous current merged) :
    previous.stage = merged.stage ∧ current.stage = merged.stage := by
  have labels := h.labels
  have same := h.same
  simp only [Prod.mk.injEq] at labels same
  exact ⟨labels.2.1.symm, same.2.1.symm.trans labels.2.1.symm⟩

theorem Merged.wellFormed (h : Merged previous current merged) (hp : previous.WellFormed)
    (hc : current.WellFormed) : merged.WellFormed := by
  obtain ⟨i, j, hi, hj, later, joined⟩ := h.intervals
  have interval : ∀ interval ∈ merged.recordingInterval,
      interval.startOffsetMs ≤ interval.endOffsetMs := by
    rw [joined]
    rintro _ ⟨⟩
    exact ((hp.interval i hi).trans later).trans (hc.interval j hj)
  cases h.ranges with
  | inl frames =>
    obtain ⟨before, after, hbefore, hafter, adjacent, found, native, -, -⟩ := frames
    refine ⟨?_, native ▸ hp.native, interval⟩
    rw [found]
    rintro _ ⟨⟩
    have first := hp.frames before hbefore
    have second := hc.frames after hafter
    dsimp only
    omega
  | inr natives =>
    obtain ⟨-, -, none, -, before, after, hbefore, hafter, adjacent, found⟩ := natives
    refine ⟨none ▸ nofun, ?_, interval⟩
    rw [found]
    rintro _ ⟨⟩
    have first := hp.native before hbefore
    have second := hc.native after hafter
    dsimp only
    omega

theorem Merged.located (h : Merged previous current merged) (hp : previous.WellFormed)
    (hc : current.WellFormed) :
    merged.Located ledger ↔ previous.Located ledger ∧ current.Located ledger := by
  have kind := h.lossClass
  have place := h.stage
  cases h.ranges with
  | inl frames =>
    obtain ⟨before, after, hbefore, hafter, adjacent, found, native, natives, -⟩ := frames
    have first := hp.frames before hbefore
    have second := hc.frames after hafter
    simp only [Loss.Located, Loss.IsBytes, hbefore, hafter, found, native, kind]
    cases missing : previous.nativeSequenceRange with
    | some range => simp
    | none =>
      rw [missing] at natives
      rw [Option.isNone_iff_eq_none.mp natives.symm]
      dsimp only
      constructor
      · rintro ⟨named, bounds⟩
        exact ⟨⟨named, by omega⟩, named, by omega⟩
      · rintro ⟨⟨named, bounds⟩, -, bounds'⟩
        exact ⟨named, by omega⟩
  | inr natives =>
    obtain ⟨noneP, noneC, none, -, before, after, hbefore, hafter, adjacent, found⟩ := natives
    have first := hp.native before hbefore
    have second := hc.native after hafter
    simp only [Loss.Located, noneP, noneC, none, hbefore, hafter, found, kind, place]
    constructor
    · rintro ⟨named, staged, bounds, apart⟩
      exact ⟨⟨named, staged, by omega, fun source mem => by have := apart source mem; omega⟩, named,
        staged, by omega, fun source mem => by have := apart source mem; omega⟩
    · rintro ⟨⟨named, staged, bounds, apart⟩, -, -, bounds', apart'⟩
      refine ⟨named, staged, by omega, fun source mem => ?_⟩
      have left := apart source mem
      have right := apart' source mem
      omega

/-- Merged losses have numbers to be lost only where each has its own. -/
theorem Merged.numbered (h : Merged previous current merged) (hp : previous.Numbered ledger) :
    merged.Numbered ledger := by
  cases h.ranges with
  | inl frames =>
    obtain ⟨before, after, -, -, -, found, -, -, none⟩ := frames
    rw [Loss.Numbered, found, none]
    exact fun _ h => by cases h
  | inr natives =>
    obtain ⟨noneP, -, none, same, -⟩ := natives
    rw [Loss.Numbered, noneP] at hp
    rw [Loss.Numbered, none, same]
    exact hp

theorem Merged.isBytes (h : Merged previous current merged) :
    (previous.IsBytes ↔ merged.IsBytes) ∧ (current.IsBytes ↔ merged.IsBytes) := by
  rw [Loss.IsBytes, Loss.IsBytes, Loss.IsBytes, h.lossClass.1, h.lossClass.2]
  exact ⟨Iff.rfl, Iff.rfl⟩

/-- The losses that cover a source. -/
def losing (number : Int) (losses : List Loss) : Nat :=
  losses.countP fun loss => loss.abstract.Loses number

/-- The losses that cover a native sequence. -/
def missing (number : Int) (losses : List Loss) : Nat :=
  (losses.flatMap fun loss => loss.abstract.nativeRanges).countP
    fun range => range.1 ≤ number ∧ number ≤ range.2

theorem losing_frames {loss : Loss} {range : Range} (found : loss.recordingFrameRange = some range)
    (number : Int) : losing number [loss] =
      if loss.IsBytes ∧ range.first ≤ number ∧ number ≤ range.last then 1 else 0 := by
  simp only [losing, List.countP_singleton, Loss.abstract, found, Video.Loss.Loses, decide_eq_true_eq]

theorem missing_frames {loss : Loss} {range : Range} (found : loss.recordingFrameRange = some range)
    (number : Int) : missing number [loss] = 0 := by
  simp only [missing, List.flatMap_singleton, Loss.abstract, found, Video.Loss.nativeRanges,
    List.countP_nil]

theorem Merged.loses (h : Merged previous current merged) (hp : previous.WellFormed)
    (hc : current.WellFormed) (number : Int) :
    losing number [merged] = losing number [previous] + losing number [current] := by
  have bytes := h.isBytes
  cases h.ranges with
  | inl frames =>
    obtain ⟨before, after, hbefore, hafter, adjacent, found, -⟩ := frames
    have first := hp.frames before hbefore
    have second := hc.frames after hafter
    rw [losing_frames found, losing_frames hbefore, losing_frames hafter]
    simp only [bytes]
    by_cases lost : merged.IsBytes
    · simp only [lost, true_and]
      split_ifs <;> omega
    · simp [lost]
  | inr natives =>
    obtain ⟨noneP, noneC, none, -, before, after, hbefore, hafter, -, found⟩ := natives
    simp [losing, Loss.abstract, noneP, noneC, none, hbefore, hafter, found, Video.Loss.Loses]

theorem Merged.misses (h : Merged previous current merged) (hp : previous.WellFormed)
    (hc : current.WellFormed) (number : Int) :
    missing number [merged] = missing number [previous] + missing number [current] := by
  cases h.ranges with
  | inl frames =>
    obtain ⟨before, after, hbefore, hafter, -, found, -⟩ := frames
    rw [missing_frames found, missing_frames hbefore, missing_frames hafter]
  | inr natives =>
    obtain ⟨noneP, noneC, none, -, before, after, hbefore, hafter, adjacent, found⟩ := natives
    have first := hp.native before hbefore
    have second := hc.native after hafter
    simp only [missing, List.flatMap_singleton, Loss.abstract, noneP, noneC, none, hbefore, hafter,
      found, Video.Loss.nativeRanges, List.countP_singleton, decide_eq_true_eq]
    split_ifs <;> omega

/-- The sources of a range. -/
def Loss.indices (loss : Loss) : List Int :=
  match loss.recordingFrameRange with
  | some range => (List.range (range.last + 1 - range.first).toNat).map fun (i : Nat) => range.first + (i : Int)
  | none => []

theorem Merged.indices (h : Merged previous current merged) (hp : previous.WellFormed)
    (hc : current.WellFormed) : merged.indices = previous.indices ++ current.indices := by
  cases h.ranges with
  | inl frames =>
    obtain ⟨before, after, hbefore, hafter, adjacent, found, -⟩ := frames
    have first := hp.frames before hbefore
    have second := hc.frames after hafter
    have size : (after.last + 1 - before.first).toNat =
        (before.last + 1 - before.first).toNat + (after.last + 1 - after.first).toNat := by omega
    simp only [Loss.indices, hbefore, hafter, found, size, List.range_add, List.map_append,
      List.map_map]
    refine congrArg _ (List.map_congr_left fun i _ => ?_)
    simp only [Function.comp_apply]
    omega
  | inr natives =>
    obtain ⟨noneP, noneC, none, -⟩ := natives
    rw [Loss.indices, Loss.indices, Loss.indices, noneP, noneC, none]
    rfl

/-- The loss has one kind of range. -/
def Loss.Single (loss : Loss) : Prop :=
  loss.recordingFrameRange = none ∨ loss.nativeSequenceRange = none

def Loss.labels (loss : Loss) : Option String × Option String × Option String :=
  (loss.lossClass, loss.stage, loss.reason)

/-- The sources that the losses of a class cover, in order. -/
def covered (kind : Option String) (losses : List Loss) : List Int :=
  (losses.filter fun loss => loss.lossClass = kind).flatMap Loss.indices

/-- The union of the native ranges. -/
def nativeSequences (losses : List Loss) : Set Int :=
  {n | ∃ loss ∈ losses, ∃ range ∈ loss.nativeSequenceRange, range.first ≤ n ∧ n ≤ range.last}

/-- An interval is covered under the same labels. -/
def Spanned (interval : Interval) (labels : Option String × Option String × Option String)
    (losses : List Loss) : Prop :=
  ∃ loss ∈ losses, loss.labels = labels ∧ ∃ span ∈ loss.recordingInterval,
    span.startOffsetMs ≤ interval.startOffsetMs ∧ interval.endOffsetMs ≤ span.endOffsetMs

/-- What the losses cover in the one list and in the other. -/
structure Keeps (ledger : List Source) (losses others : List Loss) : Prop where
  wellFormed : ∀ loss ∈ others, loss.WellFormed
  located : (∀ loss ∈ others, loss.Located ledger) ↔ ∀ loss ∈ losses, loss.Located ledger
  numbered : (∀ loss ∈ losses, loss.Numbered ledger) → ∀ loss ∈ others, loss.Numbered ledger
  losing : ∀ number, losing number others = losing number losses
  missing : ∀ number, missing number others = missing number losses
  covered : ∀ kind, covered kind others = covered kind losses
  native : (∀ loss ∈ losses, loss.Single) →
    (∀ loss ∈ others, loss.Single) ∧ nativeSequences others = nativeSequences losses

variable {losses others more : List Loss}

theorem Keeps.refl (wellFormed : ∀ loss ∈ losses, loss.WellFormed) : Keeps ledger losses losses :=
  ⟨wellFormed, Iff.rfl, id, fun _ => rfl, fun _ => rfl, fun _ => rfl, fun single => ⟨single, rfl⟩⟩

theorem Keeps.trans (first : Keeps ledger losses others) (second : Keeps ledger others more) :
    Keeps ledger losses more where
  wellFormed := second.wellFormed
  located := second.located.trans first.located
  numbered numbered := second.numbered (first.numbered numbered)
  losing number := (second.losing number).trans (first.losing number)
  missing number := (second.missing number).trans (first.missing number)
  covered kind := (second.covered kind).trans (first.covered kind)
  native single := by
    obtain ⟨single', same⟩ := first.native single
    obtain ⟨single'', same'⟩ := second.native single'
    exact ⟨single'', same'.trans same⟩

theorem losing_append {number : Int} : losing number (losses ++ others) =
    losing number losses + losing number others := List.countP_append

theorem missing_append {number : Int} : missing number (losses ++ others) =
    missing number losses + missing number others := by
  rw [missing, List.flatMap_append, List.countP_append]
  rfl

theorem nativeSequences_append :
    nativeSequences (losses ++ others) = nativeSequences losses ∪ nativeSequences others := by
  ext number
  simp only [nativeSequences, List.mem_append, Set.mem_union, Set.mem_ofPred_eq, or_and_right,
    exists_or]

theorem mem_nativeSequences_singleton {loss : Loss} {number : Int} :
    number ∈ nativeSequences [loss] ↔
      ∃ range ∈ loss.nativeSequenceRange, range.first ≤ number ∧ number ≤ range.last := by
  simp [nativeSequences]

theorem Merged.native (h : Merged previous current merged) (single : previous.Single)
    (hp : previous.WellFormed) (hc : current.WellFormed) : merged.Single ∧
    nativeSequences [merged] = nativeSequences [previous] ∪ nativeSequences [current] := by
  cases h.ranges with
  | inl frames =>
    obtain ⟨before, after, hbefore, -, -, -, native, natives, -⟩ := frames
    have noneP : previous.nativeSequenceRange = none :=
      single.resolve_left fun none => nomatch hbefore.symm.trans none
    rw [noneP] at native natives
    have noneC := Option.isNone_iff_eq_none.mp natives.symm
    refine ⟨.inr native, Set.ext fun number => ?_⟩
    simp only [Set.mem_union, mem_nativeSequences_singleton, native, noneP, noneC]
    simp
  | inr natives =>
    obtain ⟨-, -, none, -, before, after, hbefore, hafter, adjacent, found⟩ := natives
    have first := hp.native before hbefore
    have second := hc.native after hafter
    refine ⟨.inl none, Set.ext fun number => ?_⟩
    simp only [Set.mem_union, mem_nativeSequences_singleton, hbefore, hafter, found, Option.mem_some_iff,
      exists_eq_left']
    omega

theorem Joins.keeps (h : Joins losses others) (wellFormed : ∀ loss ∈ losses, loss.WellFormed) :
    Keeps ledger losses others := by
  obtain ⟨can, merges⟩ := h
  rename_i front rest previous current merged
  simp only [List.forall_mem_append, List.forall_mem_cons] at wellFormed
  obtain ⟨hfront, hp, hc, hrest⟩ := wellFormed
  constructor
  case wellFormed =>
    simp only [List.forall_mem_append, List.forall_mem_cons]
    exact ⟨hfront, merges.wellFormed hp hc, hrest⟩
  case located =>
    simp only [List.forall_mem_append, List.forall_mem_cons, merges.located hp hc, and_assoc]
  case numbered =>
    simp only [List.forall_mem_append, List.forall_mem_cons]
    exact fun ⟨first, previous, _, last⟩ => ⟨first, merges.numbered previous, last⟩
  case losing =>
    intro number
    rw [← List.singleton_append, ← @List.singleton_append _ previous, ← @List.singleton_append _ current]
    simp only [losing_append, merges.loses hp hc, Nat.add_assoc]
  case missing =>
    intro number
    rw [← List.singleton_append, ← @List.singleton_append _ previous, ← @List.singleton_append _ current]
    simp only [missing_append, merges.misses hp hc, Nat.add_assoc]
  case covered =>
    intro kind
    simp only [covered, List.filter_append, List.filter_cons, merges.lossClass, decide_eq_true_eq]
    split
    · simp only [List.flatMap_append, List.flatMap_cons, merges.indices hp hc, List.append_assoc]
    · rfl
  case native =>
    simp only [List.forall_mem_append, List.forall_mem_cons]
    rintro ⟨sfront, sp, sc, srest⟩
    obtain ⟨single, union⟩ := merges.native sp hp hc
    refine ⟨⟨sfront, single, srest⟩, ?_⟩
    rw [← List.singleton_append, ← @List.singleton_append _ previous, ← @List.singleton_append _ current]
    simp only [nativeSequences_append, union, Set.union_assoc]

theorem JoinsTo.keeps (h : JoinsTo losses others) (wellFormed : ∀ loss ∈ losses, loss.WellFormed) :
    Keeps ledger losses others := by
  induction h with
  | refl => exact .refl wellFormed
  | tail _ join ih => exact ih.trans (join.keeps ih.wellFormed)

theorem JoinsTo.length_le (h : JoinsTo losses others) : others.length ≤ losses.length := by
  induction h with
  | refl => exact le_rfl
  | tail _ join ih =>
    obtain ⟨_, _⟩ := join
    simp only [List.length_append, List.length_cons] at ih ⊢
    omega

theorem Spanned.mono {interval : Interval} {labels : Option String × Option String × Option String}
    (h : Spanned interval labels losses)
    (each : ∀ loss ∈ losses, ∀ i ∈ loss.recordingInterval, Spanned i loss.labels others) :
    Spanned interval labels others := by
  obtain ⟨loss, mem, rfl, span, hspan, first, last⟩ := h
  obtain ⟨loss', mem', same, span', hspan', first', last'⟩ := each loss mem span hspan
  exact ⟨loss', mem', same, span', hspan', first'.trans first, last.trans last'⟩

theorem spanned_self {loss : Loss} {interval : Interval} (mem : loss ∈ losses)
    (h : interval ∈ loss.recordingInterval) : Spanned interval loss.labels losses :=
  ⟨loss, mem, rfl, interval, h, le_rfl, le_rfl⟩

theorem Joins.spans (h : Joins losses others) (wellFormed : ∀ loss ∈ losses, loss.WellFormed) :
    ∀ loss ∈ losses, ∀ interval ∈ loss.recordingInterval, Spanned interval loss.labels others := by
  obtain ⟨can, merges⟩ := h
  rename_i front rest previous current merged
  simp only [List.forall_mem_append, List.forall_mem_cons] at wellFormed ⊢
  obtain ⟨-, hp, hc, -⟩ := wellFormed
  obtain ⟨before, after, hbefore, hafter, later, found⟩ := merges.intervals
  have here : merged ∈ front ++ merged :: rest := List.mem_append_right _ (.head _)
  have first := hp.interval before hbefore
  have second := hc.interval after hafter
  refine ⟨fun loss mem interval => spanned_self (List.mem_append_left _ mem), ?_, ?_,
    fun loss mem interval => spanned_self (List.mem_append_right _ (.tail _ mem))⟩
  · rintro interval held
    cases hbefore.symm.trans held
    exact ⟨merged, here, merges.labels, _, found, le_rfl, by dsimp only; omega⟩
  · rintro interval held
    cases hafter.symm.trans held
    exact ⟨merged, here, merges.labels.trans merges.same, _, found, by dsimp only; omega, le_rfl⟩

theorem JoinsTo.spans (h : JoinsTo losses others) (wellFormed : ∀ loss ∈ losses, loss.WellFormed) :
    ∀ loss ∈ losses, ∀ interval ∈ loss.recordingInterval, Spanned interval loss.labels others := by
  induction h with
  | refl => exact fun loss mem interval => spanned_self mem
  | tail joins join ih =>
    have kept : Keeps [] losses _ := JoinsTo.keeps joins wellFormed
    exact fun loss mem interval held =>
      (ih loss mem interval held).mono (join.spans kept.wellFormed)

end Merging

section Idempotence

variable {result losses out : List Loss}

/-- No neighbours can be merged. -/
abbrev Settled (losses : List Loss) : Prop := losses.IsChain fun previous current => ¬ CanMerge previous current

theorem Merged.canMerge {before previous current merged : Loss} (h : Merged previous current merged)
    (can : CanMerge before merged) : CanMerge before previous := by
  obtain ⟨same, frames, natives, some, adjacent, first, hfirst, second, hsecond, later⟩ := can
  obtain ⟨i, j, hi, -, -, joined⟩ := h.intervals
  cases joined.symm.trans hsecond
  cases h.ranges with
  | inl ranges =>
    obtain ⟨range, other, hrange, -, -, found, native, -, -⟩ := ranges
    rw [native] at natives
    rw [found] at frames adjacent
    refine ⟨same.trans h.labels, frames.trans (by rw [hrange]; rfl), natives, some, ?_, first, hfirst,
      i, hi, later⟩
    rw [if_neg (by rw [frames]; exact Bool.false_ne_true)] at adjacent ⊢
    obtain ⟨x, hx, _, ⟨⟩, next⟩ := adjacent
    exact ⟨x, hx, range, hrange, next⟩
  | inr ranges =>
    obtain ⟨noneP, -, none, -, range, other, hrange, -, -, found⟩ := ranges
    rw [none] at frames
    rw [found] at natives adjacent
    refine ⟨same.trans h.labels, frames.trans (by rw [noneP]), natives.trans (by rw [hrange]; rfl),
      some, ?_, first, hfirst, i, hi, later⟩
    rw [if_pos (by rw [frames]; rfl)] at adjacent ⊢
    obtain ⟨x, hx, _, ⟨⟩, next⟩ := adjacent
    exact ⟨x, hx, range, hrange, next⟩

theorem coalesceFrom_settled (settled : Settled result) (h : coalesceFrom result losses = some out) :
    Settled out := by
  induction losses generalizing result with
  | nil =>
    cases h
    exact settled
  | cons loss losses ih =>
    rw [coalesceFrom] at h
    have kept (apart : ∀ previous ∈ result.getLast?, ¬ CanMerge previous loss) :
        Settled (result ++ [loss]) := by
      refine List.isChain_append.mpr ⟨settled, List.isChain_singleton loss, ?_⟩
      rintro previous last _ ⟨⟩
      exact apart previous last
    split at h
    · rename_i previous last
      split at h
      · rename_i can
        obtain ⟨merged, found, merges⟩ := mergeLosses_eq can
        rw [found] at h
        obtain ⟨front, rfl⟩ := List.getLast?_eq_some_iff.mp last
        rw [List.dropLast_concat] at h
        obtain ⟨before, -, apart⟩ := List.isChain_append.mp settled
        refine ih (List.isChain_append.mpr ⟨before, List.isChain_singleton merged, ?_⟩) h
        rintro first mem _ ⟨⟩
        exact fun can => apart first mem previous rfl (merges.canMerge can)
      · rename_i cannot
        refine ih (kept ?_) h
        rw [last]
        rintro _ ⟨⟩
        exact cannot
    · rename_i empty
      refine ih (kept ?_) h
      rw [empty]
      exact fun _ mem => absurd mem (Option.not_mem_none _)

theorem coalesceFrom_of_settled (settled : Settled (result ++ losses)) :
    coalesceFrom result losses = some (result ++ losses) := by
  induction losses generalizing result with
  | nil => rw [coalesceFrom, List.append_nil]
  | cons loss losses ih =>
    have apart := (List.isChain_append.mp settled).2.2
    have kept : Settled ((result ++ [loss]) ++ losses) := by rwa [List.append_assoc]
    have found := ih kept
    rw [List.append_assoc] at found
    rw [coalesceFrom]
    split
    · rename_i previous last
      rw [if_neg (apart previous last loss rfl)]
      exact found
    · exact found

theorem coalesceLosses_idempotent (h : coalesceLosses losses = .ok out) :
    coalesceLosses out = .ok out := by
  have room := (coalesceLosses_joinsTo h).2
  simp only [coalesceLosses, bind_eq_ok, orFail_eq_ok, require_eq_ok, pure_eq_ok] at h ⊢
  obtain ⟨_, found, _, _, rfl⟩ := h
  exact ⟨_, coalesceFrom_of_settled (coalesceFrom_settled .nil found), (), room, rfl⟩

end Idempotence

section Acceptance

variable {ledger : List Source} {frames : List Frame} {losses : List Loss}

/-- The exact covers, told by counting. -/
structure Accounts (ledger : List Source) (frames : List Frame) (losses : List Loss) : Prop where
  named : ∀ frame ∈ frames, frame.Names ledger
  ordered : (frames.filterMap Frame.sequence).Pairwise (· < ·)
  located : ∀ loss ∈ losses, loss.Located ledger
  numbered : ∀ loss ∈ losses, loss.Numbered ledger
  once : ∀ number : Int, 1 ≤ number → number ≤ ledger.length →
    frames.countP (·.sequence = some number) + losing number losses = 1
  disjoint : ∀ number, missing number losses ≤ 1

theorem mapM_readLoss {read : List Video.Loss} :
    ((losses.map Loss.document).mapM readLoss = some read ∧ ∀ loss ∈ read, loss.Names ledger) ↔
      read = losses.map Loss.abstract ∧
        ∀ loss ∈ losses, loss.Located ledger ∧ loss.Numbered ledger := by
  induction losses generalizing read with
  | nil =>
    simp only [List.map_nil, List.mapM_nil, Option.pure_def, Option.some.injEq]
    constructor
    · rintro ⟨rfl, -⟩
      exact ⟨rfl, fun _ mem => absurd mem List.not_mem_nil⟩
    · rintro ⟨rfl, -⟩
      exact ⟨rfl, fun _ mem => absurd mem List.not_mem_nil⟩
  | cons loss losses ih =>
    simp only [List.map_cons, List.mapM_cons, Option.bind_eq_bind, Option.bind_eq_some_iff,
      Option.pure_def, Option.some.injEq, List.forall_mem_cons]
    constructor
    · rintro ⟨⟨first, here, rest, there, rfl⟩, each⟩
      rw [List.forall_mem_cons] at each
      obtain ⟨rfl, located⟩ := Loss.readLoss_iff.mp ⟨here, each.1⟩
      obtain ⟨rfl, others⟩ := ih.mp ⟨there, each.2⟩
      exact ⟨rfl, located, others⟩
    · rintro ⟨rfl, located, others⟩
      obtain ⟨here, named⟩ := Loss.readLoss_iff.mpr ⟨rfl, located⟩
      obtain ⟨there, each⟩ := ih.mpr ⟨rfl, others⟩
      exact ⟨⟨_, here, _, there, rfl⟩, List.forall_mem_cons.mpr ⟨named, each⟩⟩

/-- Ranges are apart where none of their numbers is in two of them. -/
theorem pairwise_iff_countP {ranges : List (Int × Int)} (valid : ∀ range ∈ ranges, range.1 ≤ range.2) :
    (ranges.Pairwise fun a b => a.2 < b.1 ∨ b.2 < a.1) ↔
      ∀ number, (ranges.countP fun range => range.1 ≤ number ∧ number ≤ range.2) ≤ 1 := by
  induction ranges with
  | nil => simp
  | cons range ranges ih =>
    rw [List.forall_mem_cons] at valid
    rw [List.pairwise_cons, ih valid.2]
    simp only [List.countP_cons, decide_eq_true_eq]
    constructor
    · rintro ⟨apart, rest⟩ number
      split
      · rename_i inside
        have none : (ranges.countP fun range => range.1 ≤ number ∧ number ≤ range.2) = 0 := by
          refine List.countP_eq_zero.mpr fun other mem => ?_
          have := apart other mem
          simp only [decide_eq_true_eq]
          omega
        omega
      · exact rest number
    · intro each
      refine ⟨fun other mem => ?_, fun number => (Nat.le_add_right _ _).trans (each number)⟩
      by_contra! overlap
      have second := valid.2 other mem
      obtain ⟨number, here, there⟩ : ∃ number, (range.1 ≤ number ∧ number ≤ range.2) ∧
          (other.1 ≤ number ∧ number ≤ other.2) := ⟨max range.1 other.1, by omega, by omega⟩
      have common := each number
      have counted : 0 < ranges.countP fun range => range.1 ≤ number ∧ number ≤ range.2 :=
        List.countP_pos_iff.mpr ⟨other, mem, decide_eq_true there⟩
      rw [if_pos here] at common
      omega

theorem Loss.WellFormed.abstract {loss : Loss} (h : loss.WellFormed) {range : Int × Int}
    (mem : range ∈ loss.abstract.nativeRanges) : range.1 ≤ range.2 := by
  rw [Loss.abstract] at mem
  split at mem
  · exact absurd mem List.not_mem_nil
  · rename_i found
    rw [Video.Loss.nativeRanges, List.mem_singleton] at mem
    rw [mem]
    exact (h.native _ found).2
  · exact absurd mem List.not_mem_nil

theorem validate_iff {sources segments : Json} (wellFormed : ∀ loss ∈ losses, loss.WellFormed) :
    validateSourceCoverage sources segments (documents losses) = .ok () ↔
      losses.length ≤ 2 * maxSourceFrames ∧ ∃ ledger frames, IsLedger sources ledger ∧
        readSegments segments = some frames ∧ Accounts ledger frames losses := by
  have valid : ∀ range ∈ (losses.map Loss.abstract).flatMap Video.Loss.nativeRanges,
      range.1 ≤ range.2 := by
    intro range mem
    obtain ⟨_, read, mem⟩ := List.mem_flatMap.mp mem
    obtain ⟨loss, inside, rfl⟩ := List.mem_map.mp read
    exact (wellFormed loss inside).abstract mem
  have counted (number : Int) : losing number losses =
      (losses.map Loss.abstract).countP (Video.Loss.Loses number) := by
    rw [List.countP_map]
    rfl
  have listed : losses.flatMap (fun loss => loss.abstract.nativeRanges) =
      (losses.map Loss.abstract).flatMap Video.Loss.nativeRanges := by
    rw [List.flatMap_map]
  rw [coverage_iff]
  simp only [readLosses, documents, asList, Option.bind_eq_bind, Option.bind_some,
    Option.bind_eq_some_iff, Option.guard_eq_some', exists_const, List.length_map]
  constructor
  · rintro ⟨ledger, frames, read, isLedger, segments', ⟨room, found⟩, cover⟩
    obtain ⟨rfl, each⟩ := mapM_readLoss.mp ⟨found, cover.located⟩
    refine ⟨room, ledger, frames, isLedger, segments', cover.named, cover.ordered,
      fun loss mem => (each loss mem).1, fun loss mem => (each loss mem).2, fun number low high => ?_, ?_⟩
    · rw [counted]
      exact cover.once number low high
    · have disjoint := (pairwise_iff_countP valid).mp cover.disjoint
      rwa [← listed] at disjoint
  · rintro ⟨room, ledger, frames, isLedger, segments', accounts⟩
    obtain ⟨found, located⟩ := mapM_readLoss.mpr ⟨rfl, fun loss mem =>
      ⟨accounts.located loss mem, accounts.numbered loss mem⟩⟩
    refine ⟨ledger, frames, _, isLedger, segments', ⟨room, found⟩, accounts.named, accounts.ordered,
      located, fun number low high => ?_, ?_⟩
    · rw [← counted]
      exact accounts.once number low high
    · refine (pairwise_iff_countP valid).mpr ?_
      rw [← listed]
      exact accounts.disjoint

/-- Lists that cover the same account for the same frames, up to the numbers of the losses. -/
theorem Keeps.accounts {others : List Loss} (keeps : Keeps ledger losses others) :
    Accounts ledger frames losses ↔
      Accounts ledger frames others ∧ ∀ loss ∈ losses, loss.Numbered ledger := by
  constructor
  · intro accounts
    refine ⟨⟨accounts.named, accounts.ordered, keeps.located.mpr accounts.located,
      keeps.numbered accounts.numbered, fun number low high => ?_, fun number => ?_⟩, accounts.numbered⟩
    · rw [keeps.losing]
      exact accounts.once number low high
    · rw [keeps.missing]
      exact accounts.disjoint number
  · rintro ⟨accounts, numbered⟩
    refine ⟨accounts.named, accounts.ordered, keeps.located.mp accounts.located, numbered,
      fun number low high => ?_, fun number => ?_⟩
    · rw [← keeps.losing]
      exact accounts.once number low high
    · rw [← keeps.missing]
      exact accounts.disjoint number

theorem isLedger_unique {sources : Json} {other : List Source} (h : IsLedger sources ledger)
    (h' : IsLedger sources other) : ledger = other := by
  obtain ⟨items, listed, -, read⟩ := isLedger_iff.mp h
  obtain ⟨items', listed', -, read'⟩ := isLedger_iff.mp h'
  cases listed.symm.trans listed'
  exact Except.ok.inj (read.symm.trans read')

/-- Lists that cover the same are accepted alike, where both are short and the first is numbered. -/
theorem Keeps.validate {sources segments : Json} {others : List Loss}
    (wellFormed : ∀ loss ∈ losses, loss.WellFormed) (wellFormed' : ∀ loss ∈ others, loss.WellFormed)
    (keeps : ∀ ledger, IsLedger sources ledger → Keeps ledger losses others)
    (room : losses.length ≤ 2 * maxSourceFrames → others.length ≤ 2 * maxSourceFrames) :
    validateSourceCoverage sources segments (documents losses) = .ok () ↔
      validateSourceCoverage sources segments (documents others) = .ok () ∧
      losses.length ≤ 2 * maxSourceFrames ∧
      ∀ ledger, IsLedger sources ledger → ∀ loss ∈ losses, loss.Numbered ledger := by
  rw [validate_iff wellFormed, validate_iff wellFormed']
  constructor
  · rintro ⟨short, ledger, frames, isLedger, read, accounts⟩
    obtain ⟨accounts, numbered⟩ := (keeps ledger isLedger).accounts.mp accounts
    exact ⟨⟨room short, ledger, frames, isLedger, read, accounts⟩, short, fun other isLedger' =>
      isLedger_unique isLedger isLedger' ▸ numbered⟩
  · rintro ⟨⟨-, ledger, frames, isLedger, read, accounts⟩, short, numbered⟩
    exact ⟨short, ledger, frames, isLedger, read,
      (keeps ledger isLedger).accounts.mpr ⟨accounts, numbered ledger isLedger⟩⟩

end Acceptance

end Reproof.Live.Video.Recovery

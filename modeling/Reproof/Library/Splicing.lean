import Mathlib.Data.List.Induction
import Mathlib.Data.List.Pairwise
import Mathlib.Data.List.Lex
import Mathlib.Data.List.Sort
import Mathlib.Data.Prod.Lex

/-! Where a text occurs in another, and the replacement of several ranges of a text. -/

universe u

namespace Reproof.Library

variable {α : Type u}

section Occurrences

/-- `old` stands in the text from the position `i` on. -/
def OccursAt (old text : List α) (i : Nat) : Prop := old <+: text.drop i

/-- Two occurrences of `old` share a position. -/
def Overlaps (old text : List α) : Prop :=
  ∃ i j, OccursAt old text i ∧ OccursAt old text j ∧ i < j ∧ j < i + old.length

variable {old text rest : List α} {c : α} {i : Nat}

@[simp] theorem occursAt_zero : OccursAt old text 0 ↔ old <+: text := by simp [OccursAt]

@[simp] theorem occursAt_succ : OccursAt old (c :: rest) (i + 1) ↔ OccursAt old rest i := by
  simp [OccursAt]

theorem OccursAt.bound (occurs : OccursAt old text i) (filled : old ≠ []) :
    i + old.length ≤ text.length := by
  have fits := occurs.length_le
  have positive := List.length_pos_of_ne_nil filled
  rw [List.length_drop] at fits
  omega

theorem not_occursAt_nil (filled : old ≠ []) : ¬ OccursAt old [] i := fun occurs => by
  have bound := occurs.bound filled
  have positive := List.length_pos_of_ne_nil filled
  simp only [List.length_nil] at bound
  omega

variable [DecidableEq α]

/-- The occurrences of `old` from the left, one after the other, once `skip` positions are past. -/
def countFrom (old : List α) : Nat → List α → Nat
  | _, [] => 0
  | skip + 1, _ :: rest => countFrom old skip rest
  | 0, c :: rest =>
    if old <+: c :: rest then countFrom old (old.length - 1) rest + 1 else countFrom old 0 rest

/-- `text.count(old)` of an `old` that is not empty. -/
def count (old text : List α) : Nat := countFrom old 0 text

/-- `text.index(old)` of an `old` that is not empty. -/
def index? (old : List α) : List α → Option Nat
  | [] => none
  | c :: rest => if old <+: c :: rest then some 0 else (index? old rest).map (· + 1)

theorem countFrom_eq_zero (filled : old ≠ []) {skip : Nat} :
    countFrom old skip text = 0 ↔ ∀ i, skip ≤ i → ¬ OccursAt old text i := by
  induction text generalizing skip with
  | nil =>
    cases skip <;> simp [countFrom, not_occursAt_nil filled]
  | cons c rest ih =>
    cases skip with
    | succ skip =>
      rw [countFrom, ih]
      constructor
      · intro free i past
        cases i with
        | zero => exact absurd past (Nat.not_succ_le_zero skip)
        | succ i => exact occursAt_succ.not.mpr (free i (by omega))
      · exact fun free i past => occursAt_succ.not.mp (free (i + 1) (by omega))
    | zero =>
      rw [countFrom]
      split
      · rename_i here
        constructor
        · exact fun none => absurd none (Nat.succ_ne_zero _)
        · exact fun free => absurd here (occursAt_zero.not.mp (free 0 (Nat.le_refl 0)))
      · rename_i elsewhere
        rw [ih]
        constructor
        · intro free i _
          cases i with
          | zero => exact occursAt_zero.not.mpr elsewhere
          | succ i => exact occursAt_succ.not.mpr (free i (Nat.zero_le i))
        · exact fun free i _ => occursAt_succ.not.mp (free (i + 1) (Nat.zero_le _))

/-- A text counted once occurs first where it is found, and later only within its length. -/
theorem count_eq_one (filled : old ≠ []) (once : count old text = 1) :
    ∃ i, index? old text = some i ∧ OccursAt old text i ∧
      ∀ j, OccursAt old text j → i ≤ j ∧ j < i + old.length := by
  unfold count at once
  induction text with
  | nil => cases once
  | cons c rest ih =>
    rw [countFrom] at once
    rw [index?]
    split at once
    · rename_i here
      rw [if_pos here]
      have free := (countFrom_eq_zero filled).mp (Nat.succ.inj once)
      refine ⟨0, rfl, occursAt_zero.mpr here, fun j occurs => ⟨Nat.zero_le j, ?_⟩⟩
      have positive := List.length_pos_of_ne_nil filled
      cases j with
      | zero => omega
      | succ j =>
        by_contra past
        exact free j (by omega) (occursAt_succ.mp occurs)
    · rename_i elsewhere
      rw [if_neg elsewhere]
      obtain ⟨i, found, occurs, near⟩ := ih once
      refine ⟨i + 1, by rw [found]; rfl, occursAt_succ.mpr occurs, fun j there => ?_⟩
      cases j with
      | zero => exact absurd (occursAt_zero.mp there) elsewhere
      | succ j =>
        have := near j (occursAt_succ.mp there)
        omega

/-- A text counted once occurs once, unless its occurrences overlap. -/
theorem existsUnique_occursAt_iff (filled : old ≠ []) (once : count old text = 1) :
    (∃! i, OccursAt old text i) ↔ ¬ Overlaps old text := by
  obtain ⟨i, -, occurs, near⟩ := count_eq_one filled once
  constructor
  · rintro ⟨k, -, only⟩ ⟨a, b, first, second, before, -⟩
    have := only a first
    have := only b second
    omega
  · intro apart
    refine ⟨i, occurs, fun j there => ?_⟩
    obtain ⟨after, within⟩ := near j there
    by_contra other
    exact apart ⟨i, j, occurs, there, by omega, within⟩

end Occurrences

/-- The text `new` in place of the positions from `start` up to `stop`. -/
structure Replacement (α : Type u) where
  start : Nat
  stop : Nat
  new : List α

namespace Replacement

def Covers (r : Replacement α) (i : Nat) : Prop := r.start ≤ i ∧ i < r.stop

instance (r : Replacement α) : DecidablePred r.Covers := fun _ =>
  inferInstanceAs (Decidable (_ ∧ _))

/-- `all(end <= first or start >= last)`. -/
def Apart (r s : Replacement α) : Prop := r.stop ≤ s.start ∨ s.stop ≤ r.start

instance (r s : Replacement α) : Decidable (r.Apart s) := inferInstanceAs (Decidable (_ ∨ _))

/-- `text[:start] + new + text[end:]`. -/
def splice (text : List α) (r : Replacement α) : List α :=
  text.take r.start ++ r.new ++ text.drop r.stop

/-- What stands at the position `i`, with the character `c`, once all ranges are replaced. -/
def written (ranges : List (Replacement α)) (i : Nat) (c : α) : List α :=
  match ranges.find? (·.Covers i) with
  | none => [c]
  | some r => if r.start = i then r.new else []

def replaceFrom (ranges : List (Replacement α)) : Nat → List α → List α
  | _, [] => []
  | i, c :: rest => written ranges i c ++ replaceFrom ranges (i + 1) rest

/-- All ranges of the text replaced at once, each position looked at on its own. -/
def replaceAll (ranges : List (Replacement α)) (text : List α) : List α := replaceFrom ranges 0 text

variable {ranges ranges' : List (Replacement α)} {r : Replacement α} {text text' : List α} {i : Nat}

instance : Std.Symm (Apart (α := α)) := ⟨fun _ _ => Or.symm⟩

theorem replaceFrom_append :
    replaceFrom ranges i (text ++ text') =
      replaceFrom ranges i text ++ replaceFrom ranges (i + text.length) text' := by
  induction text generalizing i with
  | nil => rfl
  | cons c rest ih =>
    have next : i + 1 + rest.length = i + (rest.length + 1) := by omega
    simp only [List.cons_append, replaceFrom, ih, List.append_assoc, List.length_cons, next]

theorem replaceFrom_congr
    (same : ∀ j c, i ≤ j → j < i + text.length → written ranges j c = written ranges' j c) :
    replaceFrom ranges i text = replaceFrom ranges' i text := by
  induction text generalizing i with
  | nil => rfl
  | cons c rest ih =>
    rw [List.length_cons] at same
    rw [replaceFrom, replaceFrom, same i c (Nat.le_refl i) (by omega),
      ih fun j c after before => same j c (by omega) (by omega)]

theorem written_of_none (free : ∀ r ∈ ranges, ¬ r.Covers i) (c : α) : written ranges i c = [c] := by
  have none : ranges.find? (·.Covers i) = none := by
    simpa using free
  rw [written, none]

/-- Where nothing is replaced the text stays. -/
theorem replaceFrom_free
    (free : ∀ r ∈ ranges, ∀ j, i ≤ j → j < i + text.length → ¬ r.Covers j) :
    replaceFrom ranges i text = text := by
  induction text generalizing i with
  | nil => rfl
  | cons c rest ih =>
    rw [List.length_cons] at free
    rw [replaceFrom, written_of_none (fun r mem => free r mem i (Nat.le_refl i) (by omega)),
      ih fun r mem j after before => free r mem j (by omega) (by omega)]
    rfl

theorem written_append (free : ∀ r ∈ ranges, ¬ r.Covers i) (c : α) :
    written (ranges ++ [r]) i c =
      if r.Covers i then if r.start = i then r.new else [] else [c] := by
  have none : ranges.find? (·.Covers i) = none := by
    simpa using free
  rw [written, List.find?_append, none]
  by_cases covers : r.Covers i <;> simp [covers]

theorem written_append_right (free : ¬ r.Covers i) (c : α) :
    written (ranges ++ [r]) i c = written ranges i c := by
  rw [written, written, List.find?_append, List.find?_cons_of_neg (by simpa using free)]
  simp

/-- Inside a range, past its start, nothing is left. -/
theorem replaceFrom_inside (after : r.start < i) (inside : i + text.length ≤ r.stop)
    (free : ∀ s ∈ ranges, r.stop ≤ s.start) : replaceFrom (ranges ++ [r]) i text = [] := by
  induction text generalizing i with
  | nil => rfl
  | cons c rest ih =>
    rw [List.length_cons] at inside
    have covers : r.Covers i := ⟨by omega, by omega⟩
    have apart : ∀ s ∈ ranges, ¬ s.Covers i := fun s mem inside' => by
      have := free s mem
      have := inside'.1
      omega
    rw [replaceFrom, written_append apart, if_pos covers, if_neg (by omega),
      ih (by omega) (by omega), List.append_nil]

/-- A text cut at the ends of a range. -/
theorem exists_cut (filled : r.start < r.stop) (bound : r.stop ≤ text.length) :
    ∃ (before : List α) (c : α) (inside after : List α), text = before ++ (c :: inside) ++ after ∧ before.length = r.start ∧
      before.length + (inside.length + 1) = r.stop := by
  have length : ((text.drop r.start).take (r.stop - r.start)).length = r.stop - r.start := by
    rw [List.length_take, List.length_drop]
    omega
  obtain ⟨c, inside, cut⟩ := List.exists_cons_of_length_pos (show 0 < _ by omega : 0 < ((text.drop r.start).take (r.stop - r.start)).length)
  rw [cut, List.length_cons] at length
  have before : (text.take r.start).length = r.start := by
    rw [List.length_take]
    omega
  refine ⟨text.take r.start, c, inside, text.drop r.stop, ?_, before, by omega⟩
  have rest : text.drop r.stop = (text.drop r.start).drop (r.stop - r.start) := by
    rw [List.drop_drop]
    congr 1
    omega
  rw [← cut, rest, List.append_assoc, List.take_append_drop, List.take_append_drop]

/-- The next range down is spliced into what the ranges above it left. -/
theorem splice_replaceAll (filled : r.start < r.stop) (bound : r.stop ≤ text.length)
    (free : ∀ s ∈ ranges, r.stop ≤ s.start) :
    splice (replaceAll ranges text) r = replaceAll (ranges ++ [r]) text := by
  obtain ⟨before, c, inside, after, rfl, start, stop⟩ := exists_cut filled bound
  have length : (before ++ c :: inside).length = r.stop := by
    rw [List.length_append, List.length_cons, stop]
  have below : ∀ s ∈ ranges, ∀ j, j < r.stop → ¬ s.Covers j := fun s mem j early covers => by
    have := free s mem
    have := covers.1
    omega
  have left : replaceAll ranges (before ++ (c :: inside) ++ after) =
      (before ++ c :: inside) ++ replaceFrom ranges r.stop after := by
    rw [replaceAll, replaceFrom_append, replaceFrom_free, length, Nat.zero_add]
    exact fun s mem j _ early => below s mem j (by omega)
  have right : replaceAll (ranges ++ [r]) (before ++ (c :: inside) ++ after) =
      before ++ r.new ++ replaceFrom ranges r.stop after := by
    have head : replaceFrom (ranges ++ [r]) 0 before = before := by
      refine replaceFrom_free fun s mem j _ early => ?_
      rcases List.mem_append.mp mem with old | new
      · exact below s old j (by omega)
      · cases List.mem_singleton.mp new
        exact fun covers => absurd covers.1 (by omega)
    have middle : replaceFrom (ranges ++ [r]) before.length (c :: inside) = r.new := by
      rw [replaceFrom, start, written_append fun s mem => below s mem _ filled,
        if_pos ⟨Nat.le_refl _, filled⟩, if_pos rfl,
        replaceFrom_inside (Nat.lt_succ_self _) (by omega) free, List.append_nil]
    have tail : replaceFrom (ranges ++ [r]) r.stop after = replaceFrom ranges r.stop after :=
      replaceFrom_congr fun j d past _ =>
        written_append_right (fun covers => absurd covers.2 (by omega)) d
    rw [replaceAll, replaceFrom_append, replaceFrom_append, length, Nat.zero_add, Nat.zero_add,
      head, middle, tail]
  have kept : ((before ++ c :: inside) ++ replaceFrom ranges r.stop after).take r.start = before := by
    rw [← start, List.append_assoc, List.take_left]
  have dropped : ((before ++ c :: inside) ++ replaceFrom ranges r.stop after).drop r.stop =
      replaceFrom ranges r.stop after := by
    rw [← length, List.drop_left]
  rw [left, right, splice, kept, dropped]

/-- Ranges in descending order, spliced one after the other, are all replaced at once. -/
theorem foldl_splice (descending : ranges.Pairwise fun r s => s.stop ≤ r.start)
    (filled : ∀ r ∈ ranges, r.start < r.stop) (bound : ∀ r ∈ ranges, r.stop ≤ text.length) :
    ranges.foldl splice text = replaceAll ranges text := by
  induction ranges using List.reverseRecOn with
  | nil => exact (replaceFrom_free fun _ mem => absurd mem List.not_mem_nil).symm
  | append_singleton above r ih =>
    rw [List.pairwise_append] at descending
    rw [List.foldl_append, ih descending.1 (fun s mem => filled s (List.mem_append_left _ mem))
      fun s mem => bound s (List.mem_append_left _ mem)]
    exact splice_replaceAll (filled r (by simp)) (bound r (by simp))
      fun s mem => descending.2.2 s mem r (by simp)

theorem written_of_covers (mem : r ∈ ranges) (covers : r.Covers i)
    (only : ∀ s ∈ ranges, s.Covers i → s = r) (c : α) :
    written ranges i c = if r.start = i then r.new else [] := by
  obtain ⟨s, found⟩ : ∃ s, ranges.find? (·.Covers i) = some s := by
    rw [← Option.isSome_iff_exists, List.find?_isSome]
    exact ⟨r, mem, decide_eq_true covers⟩
  have same := only s (List.mem_of_find?_eq_some found) (by simpa using List.find?_some found)
  rw [written, found, same]

/-- Of ranges apart from each other at most one covers a position, whatever their order. -/
theorem replaceAll_perm (perm : ranges.Perm ranges') (apart : ranges.Pairwise Apart) :
    replaceAll ranges text = replaceAll ranges' text := by
  refine replaceFrom_congr fun i c _ _ => ?_
  by_cases free : ∀ r ∈ ranges, ¬ r.Covers i
  · rw [written_of_none free, written_of_none fun r mem => free r (perm.mem_iff.mpr mem)]
  · push Not at free
    obtain ⟨r, mem, covers⟩ := free
    have only : ∀ s ∈ ranges, s.Covers i → s = r := by
      intro s mem' covers'
      by_contra other
      have := apart.forall mem' mem other
      unfold Apart at this
      unfold Covers at covers covers'
      omega
    rw [written_of_covers mem covers only, written_of_covers (perm.mem_iff.mp mem) covers
      fun s mem' => only s (perm.mem_iff.mpr mem')]

section Sorted

variable [LinearOrder α]

/-- The order of `sorted(ranges, reverse=True)`, by start, end and text. -/
def Later (r s : Replacement α) : Prop :=
  toLex (s.start, toLex (s.stop, s.new)) ≤ toLex (r.start, toLex (r.stop, r.new))

instance : DecidableRel (Later (α := α)) := fun _ _ => inferInstanceAs (Decidable (_ ≤ _))

instance : Std.Total (Later (α := α)) := ⟨fun _ _ => le_total _ _⟩

instance : IsTrans (Replacement α) Later := ⟨fun _ _ _ h h' => le_trans h' h⟩

theorem Later.start_le {s : Replacement α} (later : r.Later s) : s.start ≤ r.start := by
  rcases Prod.Lex.le_iff.mp later with before | ⟨same, -⟩
  · exact before.le
  · exact same.le

/-- The ranges are replaced from the back, so that earlier positions stay right. -/
def spliceAll (ranges : List (Replacement α)) (text : List α) : List α :=
  (ranges.insertionSort Later).foldl splice text

theorem spliceAll_eq (apart : ranges.Pairwise Apart) (filled : ∀ r ∈ ranges, r.start < r.stop)
    (bound : ∀ r ∈ ranges, r.stop ≤ text.length) :
    spliceAll ranges text = replaceAll ranges text := by
  have perm := List.perm_insertionSort Later ranges
  have sorted := List.pairwise_insertionSort Later ranges
  have apart' := (perm.pairwise_iff fun {_ _} => Or.symm).mpr apart
  rw [spliceAll, foldl_splice, replaceAll_perm perm apart']
  · refine (sorted.and apart').imp_of_mem fun {r s} memr mems ⟨later, apart⟩ => ?_
    have := later.start_le
    have := filled r (perm.mem_iff.mp memr)
    omega
  · exact fun r mem => filled r (perm.mem_iff.mp mem)
  · exact fun r mem => bound r (perm.mem_iff.mp mem)

end Sorted

end Replacement

end Reproof.Library

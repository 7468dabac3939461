import Mathlib.Data.Nat.Digits.Defs
import Reproof.Library.Splicing

/-! Records of fixed layout in a sequence of octets, and the last place of a mark in it. -/

universe u

namespace Reproof.Library

/-- `os.pread(file, size, offset)`. -/
def pread (file : List UInt8) (size offset : Nat) : List UInt8 := (file.drop offset).take size

/-- `struct.unpack_from`: the number whose `width` octets, the least one first, stand at `start` in the record. -/
def unpackAt (record : List UInt8) (start width : Nat) : Nat :=
  Nat.ofDigits 256 ((pread record width start).map UInt8.toNat)

section Finding

variable {α : Type u} {mark text : List α} {i j n stop : Nat}

/-- `i` is the last place of the mark in the text. -/
def LastAt (mark text : List α) (i : Nat) : Prop :=
  OccursAt mark text i ∧ ∀ j, OccursAt mark text j → j ≤ i

theorem occursAt_take (filled : mark ≠ []) :
    OccursAt mark (text.take stop) i ↔ OccursAt mark text i ∧ i + mark.length ≤ stop := by
  rw [OccursAt, OccursAt, List.drop_take, List.prefix_take_iff]
  have positive := List.length_pos_of_ne_nil filled
  exact and_congr_right fun _ => by omega

theorem occursAt_drop : OccursAt mark (text.drop n) i ↔ OccursAt mark text (n + i) := by
  rw [OccursAt, OccursAt, List.drop_drop]

theorem LastAt.unique (first : LastAt mark text i) (second : LastAt mark text j) : i = j :=
  Nat.le_antisymm (second.2 i first.1) (first.2 j second.1)

/-- The last place stays the last one when what is before it is cut. -/
theorem LastAt.drop (last : LastAt mark text (n + i)) : LastAt mark (text.drop n) i := by
  refine ⟨occursAt_drop.mpr last.1, fun j there => ?_⟩
  have before := last.2 (n + j) (occursAt_drop.mp there)
  omega

/-- And the last place in the cut text is the last one of the whole. -/
theorem LastAt.of_drop (last : LastAt mark (text.drop n) i) : LastAt mark text (n + i) := by
  refine ⟨occursAt_drop.mp last.1, fun j there => ?_⟩
  by_contra past
  have inside : n + (j - n) = j := by omega
  have before := last.2 (j - n) (occursAt_drop.mpr (by rwa [inside]))
  omega

variable [DecidableEq α]

/-- The last place of the mark before `n`. -/
def lastBefore (mark text : List α) : Nat → Option Nat
  | 0 => none
  | n + 1 => if mark <+: text.drop n then some n else lastBefore mark text n

/-- `text.rfind(mark, 0, stop)` of a mark that is not empty. -/
def rfind (mark text : List α) (stop : Nat) : Option Nat := lastBefore mark (text.take stop) stop

theorem lastBefore_eq_some :
    lastBefore mark text n = some i ↔
      i < n ∧ OccursAt mark text i ∧ ∀ j < n, OccursAt mark text j → j ≤ i := by
  induction n with
  | zero => simp [lastBefore]
  | succ n ih =>
    rw [lastBefore]
    split
    · rename_i here
      constructor
      · intro found
        cases found
        exact ⟨Nat.lt_succ_self i, here, fun j before _ => Nat.le_of_lt_succ before⟩
      · rintro ⟨before, -, last⟩
        rw [Nat.le_antisymm (Nat.le_of_lt_succ before) (last n (Nat.lt_succ_self n) here)]
    · rename_i elsewhere
      rw [ih]
      constructor
      · rintro ⟨before, occurs, last⟩
        refine ⟨Nat.lt_succ_of_lt before, occurs, fun j bound there => ?_⟩
        cases Nat.lt_succ_iff_lt_or_eq.mp bound with
        | inl lower => exact last j lower there
        | inr same => exact absurd (same ▸ there) elsewhere
      · rintro ⟨before, occurs, last⟩
        have lower : i < n := by
          cases Nat.lt_succ_iff_lt_or_eq.mp before with
          | inl lower => exact lower
          | inr same => exact absurd (same ▸ occurs) elsewhere
        exact ⟨lower, occurs, fun j bound => last j (Nat.lt_succ_of_lt bound)⟩

theorem rfind_eq_some (filled : mark ≠ []) :
    rfind mark text stop = some i ↔
      (OccursAt mark text i ∧ i + mark.length ≤ stop) ∧
        ∀ j, OccursAt mark text j → j + mark.length ≤ stop → j ≤ i := by
  have positive := List.length_pos_of_ne_nil filled
  rw [rfind, lastBefore_eq_some]
  simp only [occursAt_take filled]
  constructor
  · exact fun ⟨_, here, last⟩ => ⟨here, fun j occurs fits => last j (by omega) ⟨occurs, fits⟩⟩
  · exact fun ⟨here, last⟩ => ⟨by omega, here, fun j _ there => last j there.1 there.2⟩

theorem rfind_lt (filled : mark ≠ []) (found : rfind mark text stop = some i) : i < stop := by
  have bound := ((rfind_eq_some filled).mp found).1.2
  have positive := List.length_pos_of_ne_nil filled
  omega

/-- Without a bound, the last place found is the last one. -/
theorem rfind_length (filled : mark ≠ []) :
    rfind mark text text.length = some i ↔ LastAt mark text i := by
  rw [rfind_eq_some filled]
  constructor
  · exact fun ⟨here, last⟩ => ⟨here.1, fun j occurs => last j occurs (occurs.bound filled)⟩
  · exact fun ⟨here, last⟩ => ⟨⟨here, here.bound filled⟩, fun j occurs _ => last j occurs⟩

end Finding

section Reading

variable {file : List UInt8} {size offset start width n : Nat}

theorem length_pread : (pread file size offset).length = min size (file.length - offset) := by
  rw [pread, List.length_take, List.length_drop]

theorem pread_drop : pread (file.drop n) size offset = pread file size (n + offset) := by
  rw [pread, pread, List.drop_drop]

/-- A field inside of the part that was read is a field of the file. -/
theorem unpackAt_pread (inside : start + width ≤ size) :
    unpackAt (pread file size offset) start width = unpackAt file (offset + start) width := by
  rw [unpackAt, unpackAt, pread, pread, pread, List.drop_take, List.drop_drop, List.take_take,
    Nat.min_eq_left (by omega)]

theorem unpackAt_drop : unpackAt (file.drop n) start width = unpackAt file (n + start) width := by
  rw [unpackAt, pread_drop, unpackAt]

/-- The mark at the head of what is read stands in the file. -/
theorem take_pread {mark : List UInt8} (fits : mark.length ≤ size) :
    (pread file size offset).take mark.length = mark ↔ OccursAt mark file offset := by
  rw [pread, List.take_take, Nat.min_eq_left fits, eq_comm, ← List.prefix_iff_eq_take]
  rfl

end Reading

end Reproof.Library

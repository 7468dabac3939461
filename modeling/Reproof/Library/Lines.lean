import Mathlib.Data.List.Basic

/-! Texts cut into lines that keep their ends. -/

universe u

namespace Reproof.Library

section

variable {α : Type u} {stop : α} {text line : List α} {ls : List (List α)}

/-- A line holds its end once, at the end. -/
def IsLine (stop : α) (line : List α) : Prop := ∃ content, line = content ++ [stop] ∧ stop ∉ content

theorem flatten_ended (filled : ls ≠ []) :
    (ls.map (· ++ [stop])).flatten = [stop].intercalate ls ++ [stop] := by
  induction ls with
  | nil => exact absurd rfl filled
  | cons line rest ih =>
    cases rest with
    | nil => simp
    | cons next rest =>
      rw [List.map_cons, List.flatten_cons, ih (List.cons_ne_nil _ _), List.intercalate_cons_cons]
      simp

theorem isLine_ended (lines : ∀ line ∈ ls, IsLine stop line) :
    ls = (ls.map List.dropLast).map (· ++ [stop]) := by
  rw [List.map_map]
  refine (List.map_id ls).symm.trans (List.map_congr_left fun line mem => ?_)
  obtain ⟨content, rfl, -⟩ := lines line mem
  simp

theorem getLast?_flatten (lines : ∀ line ∈ ls, IsLine stop line) (filled : ls ≠ []) :
    ls.flatten.getLast? = some stop := by
  have contents : ls.map List.dropLast ≠ [] := by simpa using filled
  rw [isLine_ended lines, flatten_ended contents]
  exact List.getLast?_concat

theorem length_le_flatten (lines : ∀ line ∈ ls, IsLine stop line) : ls.length ≤ ls.flatten.length := by
  induction ls with
  | nil => exact Nat.le_refl 0
  | cons line rest ih =>
    obtain ⟨content, rfl, -⟩ := lines line List.mem_cons_self
    have rest := ih fun line mem => lines line (List.mem_cons_of_mem _ mem)
    simp only [List.length_cons, List.flatten_cons, List.length_append, List.length_nil]
    omega

variable [DecidableEq α]

/-- `[line + stop for line in text[:-1].split(stop)]`. -/
def lines (stop : α) (text : List α) : List (List α) :=
  (text.dropLast.splitOn stop).map (· ++ [stop])

theorem not_mem_splitOn (mem : line ∈ text.splitOn stop) : stop ∉ line := by
  induction text generalizing line with
  | nil =>
    obtain rfl := by simpa using mem
    exact List.not_mem_nil
  | cons c rest ih =>
    rw [List.splitOn_cons_eq_if_modifyHead] at mem
    split at mem
    · cases mem with
      | head => exact List.not_mem_nil
      | tail _ mem => exact ih mem
    · rename_i other
      cases cut : rest.splitOn stop with
      | nil => exact absurd cut (List.splitOn_ne_nil _ _)
      | cons first more =>
        rw [cut] at mem ih
        cases mem with
        | head =>
          have first := ih List.mem_cons_self
          simp only [beq_iff_eq] at other
          exact fun mem => (List.mem_cons.mp mem).elim (fun same => other same.symm) first
        | tail _ mem => exact ih (List.mem_cons_of_mem _ mem)

theorem isLine_of_mem (mem : line ∈ lines stop text) : IsLine stop line := by
  obtain ⟨content, found, rfl⟩ := List.mem_map.mp mem
  exact ⟨content, rfl, not_mem_splitOn found⟩

/-- A text with its end is its lines, one after the other. -/
theorem flatten_lines (ended : text.getLast? = some stop) : (lines stop text).flatten = text := by
  rw [lines, flatten_ended (List.splitOn_ne_nil _ _), List.intercalate_splitOn]
  exact List.dropLast_append_getLast? stop ended

/-- Lines one after the other are cut as they were. -/
theorem lines_flatten (all : ∀ line ∈ ls, IsLine stop line) (filled : ls ≠ []) :
    lines stop ls.flatten = ls := by
  have ended := isLine_ended all
  have contents : ∀ content ∈ ls.map List.dropLast, stop ∉ content := by
    intro content mem
    obtain ⟨line, found, rfl⟩ := List.mem_map.mp mem
    obtain ⟨content, rfl, free⟩ := all line found
    simpa using free
  have some : ls.map List.dropLast ≠ [] := by simpa using filled
  calc lines stop ls.flatten = lines stop ([stop].intercalate (ls.map List.dropLast) ++ [stop]) := by
        rw [← flatten_ended some, ← ended]
    _ = (ls.map List.dropLast).map (· ++ [stop]) := by
        rw [lines, List.dropLast_concat, List.splitOn_intercalate stop contents some]
    _ = ls := ended.symm

theorem length_lines_le (ended : text.getLast? = some stop) :
    (lines stop text).length ≤ text.length := by
  have short := length_le_flatten fun line (mem : line ∈ lines stop text) => isLine_of_mem mem
  rwa [flatten_lines ended] at short

end

section Splitlines

/-- The characters that `str.splitlines` ends a line at. -/
def lineEnds : List Char :=
  ['\n', '\r', '\x0b', '\x0c', '\x1c', '\x1d', '\x1e', '\x85', '\u2028', '\u2029']

/-- `text.splitlines(keepends=True)`; a carriage return and a newline end one line. -/
def splitlines : List Char → List (List Char)
  | [] => []
  | c :: rest =>
    if c ∈ lineEnds ∧ ¬ (c = '\r' ∧ rest.head? = some '\n') then [c] :: splitlines rest
    else match splitlines rest with
      | [] => [[c]]
      | line :: more => (c :: line) :: more

/-- A line that `splitlines` cuts at its newline only. -/
def IsPlain (line : List Char) : Prop := ∃ content, line = content ++ ['\n'] ∧ ∀ c ∈ content, c ∉ lineEnds

variable {line content text : List Char} {ls : List (List Char)}

theorem IsPlain.isLine (plain : IsPlain line) : IsLine '\n' line := by
  obtain ⟨content, rfl, free⟩ := plain
  exact ⟨content, rfl, fun mem => free _ mem (by decide)⟩

theorem splitlines_content (free : ∀ c ∈ content, c ∉ lineEnds) :
    splitlines (content ++ '\n' :: text) = (content ++ ['\n']) :: splitlines text := by
  induction content with
  | nil => simp [splitlines, lineEnds]
  | cons c rest ih =>
    have other := free c List.mem_cons_self
    rw [List.cons_append, splitlines, if_neg (fun ends => other ends.1),
      ih fun c mem => free c (List.mem_cons_of_mem _ mem)]
    rfl

theorem splitlines_flatten (plain : ∀ line ∈ ls, IsPlain line) : splitlines ls.flatten = ls := by
  induction ls with
  | nil => rfl
  | cons line rest ih =>
    obtain ⟨content, rfl, free⟩ := plain line List.mem_cons_self
    rw [List.flatten_cons, List.append_assoc, List.singleton_append, splitlines_content free,
      ih fun line mem => plain line (List.mem_cons_of_mem _ mem)]

end Splitlines

end Reproof.Library

import Reproof.Execution.Wire
import Reproof.Library.Hunks
import Reproof.Library.Lines
import Reproof.Repair.Edits

/-! The lines of a hunk, and the hunks of a file, as `exact_edits` takes them. -/

namespace Reproof.Repair.UnifiedDiff

open Library Contracts

/-- A line of a text, with its end. -/
abbrev Line := List Char

/-- What follows a text at the front of a line. -/
def skip (front : String) (line : Line) : Option Line :=
  if front.toList <+: line then some (line.drop front.toList.length) else none

/-- `[0-9]{1,7}`. -/
def number (line : Line) : Option (Nat × Line) :=
  let (found, rest) := Json.digits line
  if 1 ≤ found.length ∧ found.length ≤ 7 then some (Nat.ofDigitChars 10 found 0, rest) else none

/-- `(?:,([0-9]{1,7}))?`, which is one when it is left out. -/
def count (line : Line) : Option (Nat × Line) :=
  match skip "," line with
  | some rest => number rest
  | none => some (1, line)

/-- The groups of a hunk's header. -/
structure Range where
  oldStart : Nat
  oldCount : Nat
  newStart : Nat
  newCount : Nat

/-- `(?: [^\r\n]*)?\n`. -/
def IsTrailer (line : Line) : Prop :=
  line = ['\n'] ∨
    [' '] <+: line ∧ line.getLast? = some '\n' ∧ ∀ c ∈ line.dropLast, c ≠ '\r' ∧ c ≠ '\n'

instance : DecidablePred IsTrailer := fun _ => inferInstanceAs (Decidable (_ ∨ _))

/-- `_HUNK.fullmatch(line)`. -/
def matchHunk (line : Line) : Option Range := do
  let line ← skip "@@ -" line
  let (oldStart, line) ← number line
  let (oldCount, line) ← count line
  let line ← skip " +" line
  let (newStart, line) ← number line
  let (newCount, line) ← count line
  let line ← skip " @@" line
  guard (IsTrailer line)
  pure ⟨oldStart, oldCount, newStart, newCount⟩

def sign : Mark → Char
  | .kept => ' '
  | .removed => '-'
  | .added => '+'

/-- `line[0], line[1:]`. -/
def marked : Line → Option (Mark × Line)
  | ' ' :: content => some (.kept, content)
  | '-' :: content => some (.removed, content)
  | '+' :: content => some (.added, content)
  | _ => none

/-- What the loop over the lines of a hunk has seen and put out. -/
structure Seen where
  old : Nat
  new : Nat
  output : List Line

/-- What is seen once a line is taken. -/
def Seen.next (seen : Seen) (mark : Mark) (content : Line) : Seen where
  old := if mark.inOld then seen.old + 1 else seen.old
  new := if mark.inNew then seen.new + 1 else seen.new
  output := if mark.inNew then seen.output ++ [content] else seen.output

def takeLine (original : List Line) (start : Nat) (range : Range) (seen : Seen) (line : Line) :
    Except String Seen := do
  let (mark, content) ← orFail (marked line) "Truncated hunk"
  require (mark.inOld → seen.old < range.oldCount ∧ original[start + seen.old]? = some content)
    "Original context mismatch"
  require (mark.inNew → seen.new < range.newCount) "Hunk count mismatch"
  pure (seen.next mark content)

/-- `while old_seen < old_count or new_seen < new_count`. -/
def takeLines (original : List Line) (start : Nat) (range : Range) (seen : Seen) :
    List Line → Except String (Seen × List Line)
  | [] =>
    if seen.old < range.oldCount ∨ seen.new < range.newCount then .error "Truncated hunk"
    else .ok (seen, [])
  | line :: rest =>
    if seen.old < range.oldCount ∨ seen.new < range.newCount then do
      let seen ← takeLine original start range seen line
      takeLines original start range seen rest
    else .ok (seen, line :: rest)

/-- What the loop over the hunks of a file keeps. -/
structure Written where
  output : List Line
  cursor : Nat
  previousEnd : Int
  hunks : Nat

def Written.none : Written := ⟨[], 0, -1, 0⟩

def takeHunk (original : List Line) (written : Written) (header : Line) (rest : List Line) :
    Except String (Written × List Line) := do
  let range ← orFail (matchHunk header) "Invalid hunk"
  require (range.oldCount ≠ 0 ∨ range.newCount ≠ 0) "Empty hunk"
  let start : Int := if range.oldCount ≠ 0 then range.oldStart - 1 else range.oldStart
  require (0 ≤ start ∧ start ≤ original.length ∧ written.cursor ≤ start ∧
    written.previousEnd < start) "Overlapping or unordered hunks"
  require (range.oldCount = 0 ∨ 0 < range.oldStart) "Invalid old position"
  let output := written.output ++ (original.drop written.cursor).take (start.toNat - written.cursor)
  let expectedNew := if range.newCount ≠ 0 then output.length + 1 else output.length
  require (range.newStart = expectedNew) "New position mismatch"
  let (seen, rest) ← takeLines original start.toNat range ⟨0, 0, output⟩ rest
  let hunks := written.hunks + 1
  require (hunks ≤ 4096) "Too many hunks"
  pure ({
    output := seen.output
    cursor := start.toNat + range.oldCount
    previousEnd := if range.oldCount = 0 then start else start + range.oldCount - 1
    hunks }, rest)

/-- `while i < len(lines) and lines[i].startswith('@@ ')`; each round takes one of the lines that are
left, of which there are no more than the bound. -/
def takeHunks (original : List Line) : Nat → Written → List Line → Except String (Written × List Line)
  | 0, written, lines => .ok (written, lines)
  | _, written, [] => .ok (written, [])
  | bound + 1, written, line :: rest =>
    if "@@ ".toList <+: line then do
      let (written, rest) ← takeHunk original written line rest
      takeHunks original bound written rest
    else .ok (written, line :: rest)

/-- The line of a diff that shows a line of a hunk. -/
def markLine (line : Mark × Line) : Line := sign line.1 :: line.2

/-- A hunk of a diff, with the line at its head. -/
abbrev Headed := Line × Hunk Line

def Headed.lines (entry : Headed) : List Line := entry.1 :: entry.2.body.map markLine

/-- The numbers of a hunk, with the counts of its lines. -/
def rangeOf (h : Hunk Line) : Range := ⟨h.oldStart, h.old.length, h.newStart, h.new.length⟩

section Lines

variable {original : List Line} {start : Nat} {range : Range} {seen seen' : Seen} {front : String}
  {line content : Line} {lines rest : List Line} {mark : Mark} {body : List (Mark × Line)}

theorem skip_eq_some : skip front line = some content ↔ line = front.toList ++ content := by
  unfold skip
  constructor
  · intro found
    split at found
    · rename_i begins
      obtain ⟨tail, rfl⟩ := begins
      rw [List.drop_left] at found
      rw [Option.some.inj found]
    · cases found
  · rintro rfl
    rw [if_pos (List.prefix_append _ _), List.drop_left]

theorem marked_eq_some : marked line = some (mark, content) ↔ line = markLine (mark, content) := by
  constructor
  · intro found
    unfold marked at found
    split at found
    · cases found
      rfl
    · cases found
      rfl
    · cases found
      rfl
    · cases found
  · rintro rfl
    cases mark <;> rfl

theorem takeLine_eq_ok : takeLine original start range seen line = .ok seen' ↔
    ∃ mark content, line = markLine (mark, content) ∧
      (mark.inOld → seen.old < range.oldCount ∧ original[start + seen.old]? = some content) ∧
      (mark.inNew → seen.new < range.newCount) ∧ seen' = seen.next mark content := by
  simp only [takeLine, bind_eq_ok, orFail_eq_ok, require_eq_ok, pure_eq_ok]
  constructor
  · rintro ⟨⟨mark, content⟩, found, -, old, -, new, rfl⟩
    exact ⟨mark, content, marked_eq_some.mp found, old, new, rfl⟩
  · rintro ⟨mark, content, rfl, old, new, rfl⟩
    exact ⟨(mark, content), marked_eq_some.mpr rfl, (), old, (), new, rfl⟩

namespace Seen

theorem next_old : (seen.next mark content).old + (oldLines body).length =
    seen.old + (oldLines ((mark, content) :: body)).length := by
  cases mark <;> simp [next, oldLines_cons, Mark.inOld] <;> omega

theorem next_new : (seen.next mark content).new + (newLines body).length =
    seen.new + (newLines ((mark, content) :: body)).length := by
  cases mark <;> simp [next, newLines_cons, Mark.inNew] <;> omega

theorem next_output : (seen.next mark content).output ++ newLines body =
    seen.output ++ newLines ((mark, content) :: body) := by
  cases mark <;> simp [next, newLines_cons, Mark.inNew]

/-- The old lines of a hunk stand in the original one by one. -/
theorem next_stands : oldLines ((mark, content) :: body) <+: original.drop (start + seen.old) ↔
    (mark.inOld → original[start + seen.old]? = some content) ∧
      oldLines body <+: original.drop (start + (seen.next mark content).old) := by
  rw [oldLines_cons, next]
  by_cases there : mark.inOld
  · simp only [there, if_true, forall_const]
    constructor
    · rintro ⟨tail, same⟩
      refine ⟨?_, tail, ?_⟩
      · rw [← List.head?_drop, ← same]
        rfl
      · rw [← Nat.add_assoc, ← List.tail_drop, ← same]
        rfl
    · rintro ⟨found, stands⟩
      obtain ⟨bound, same⟩ := List.getElem?_eq_some_iff.mp found
      rw [List.drop_eq_getElem_cons bound, same]
      exact List.cons_prefix_cons.mpr ⟨rfl, stands⟩
  · simp [there]

theorem ended (old : seen.old ≤ range.oldCount) (new : seen.new ≤ range.newCount)
    (stop : ¬ (seen.old < range.oldCount ∨ seen.new < range.newCount)) :
    seen.old + (@oldLines Line []).length = range.oldCount ∧
      seen.new + (@newLines Line []).length = range.newCount := by
  simp only [oldLines, newLines, List.filter_nil, List.map_nil, List.length_nil]
  omega

end Seen

/-- What the loop takes are the lines that the header counts. -/
theorem takeLines_sound (old : seen.old ≤ range.oldCount) (new : seen.new ≤ range.newCount)
    (taken : takeLines original start range seen lines = .ok (seen', rest)) :
    ∃ body, lines = body.map markLine ++ rest ∧ seen.old + (oldLines body).length = range.oldCount ∧
      seen.new + (newLines body).length = range.newCount ∧
      oldLines body <+: original.drop (start + seen.old) ∧
      seen'.output = seen.output ++ newLines body := by
  induction lines generalizing seen with
  | nil =>
    rw [takeLines] at taken
    split at taken
    · cases taken
    · rename_i stop
      cases taken
      have ended := Seen.ended old new stop
      exact ⟨[], rfl, ended.1, ended.2, List.nil_prefix, (List.append_nil _).symm⟩
  | cons line lines ih =>
    rw [takeLines] at taken
    split at taken
    · obtain ⟨next, first, others⟩ := bind_eq_ok.mp taken
      obtain ⟨mark, content, rfl, inOld, inNew, rfl⟩ := takeLine_eq_ok.mp first
      have old' : (seen.next mark content).old ≤ range.oldCount := by
        cases mark <;> simp_all [Seen.next, Mark.inOld] <;> omega
      have new' : (seen.next mark content).new ≤ range.newCount := by
        cases mark <;> simp_all [Seen.next, Mark.inNew] <;> omega
      obtain ⟨body, rfl, oldCount, newCount, stands, output⟩ := ih old' new' others
      rw [Seen.next_old] at oldCount
      rw [Seen.next_new] at newCount
      rw [Seen.next_output] at output
      exact ⟨(mark, content) :: body, rfl, oldCount, newCount,
        Seen.next_stands.mpr ⟨fun there => (inOld there).2, stands⟩, output⟩
    · rename_i stop
      cases taken
      have ended := Seen.ended old new stop
      exact ⟨[], rfl, ended.1, ended.2, List.nil_prefix, (List.append_nil _).symm⟩

theorem takeLines_complete (old : seen.old + (oldLines body).length = range.oldCount)
    (new : seen.new + (newLines body).length = range.newCount)
    (stands : oldLines body <+: original.drop (start + seen.old)) :
    takeLines original start range seen (body.map markLine ++ rest) =
      .ok (⟨range.oldCount, range.newCount, seen.output ++ newLines body⟩, rest) := by
  induction body generalizing seen with
  | nil =>
    obtain ⟨seenOld, seenNew, output⟩ := seen
    simp only [oldLines, newLines, List.filter_nil, List.map_nil, List.length_nil,
      Nat.add_zero] at old new
    subst old new
    cases rest <;> simp [takeLines, newLines]
  | cons entry body ih =>
    obtain ⟨mark, content⟩ := entry
    have filled := @exists_line _ ((mark, content) :: body) (List.cons_ne_nil _ _)
    have more : seen.old < range.oldCount ∨ seen.new < range.newCount := by omega
    obtain ⟨found, stands⟩ := Seen.next_stands.mp stands
    have first : takeLine original start range seen (markLine (mark, content)) =
        .ok (seen.next mark content) := by
      refine takeLine_eq_ok.mpr ⟨mark, content, rfl, fun there => ⟨?_, found there⟩, fun there => ?_, rfl⟩
      · rw [oldLines_cons, if_pos there, List.length_cons] at old
        omega
      · rw [newLines_cons, if_pos there, List.length_cons] at new
        omega
    rw [← @Seen.next_old seen content mark] at old
    rw [← @Seen.next_new seen content mark] at new
    rw [List.map_cons, List.cons_append, takeLines, if_pos more, first, ← Seen.next_output]
    exact ih old new stands

end Lines

namespace Written

/-- What is kept once a hunk with the unchanged lines before it is taken. -/
def past (written : Written) (gap : List Line) (h : Hunk Line) : Written where
  output := written.output ++ gap ++ h.new
  cursor := written.cursor + gap.length + h.old.length
  previousEnd :=
    if h.old.length = 0 then (written.cursor + gap.length : Nat)
    else (written.cursor + gap.length + h.old.length : Nat) - 1
  hunks := written.hunks + 1

@[simp] theorem hunks_past {written : Written} {gap : List Line} {h : Hunk Line} :
    (written.past gap h).hunks = written.hunks + 1 := rfl

@[simp] theorem output_past {written : Written} {gap : List Line} {h : Hunk Line} :
    (written.past gap h).output = written.output ++ gap ++ h.new := rfl

/-- The loop is within the original, and knows whether the last hunk had no old lines. -/
structure Stands (written : Written) (original : List Line) (inserted : Bool) : Prop where
  bound : written.cursor ≤ original.length
  ends : written.previousEnd = if inserted then (written.cursor : Int) else written.cursor - 1

end Written

section Hunks

variable {original : List Line} {written written' : Written} {header : Line}
  {lines rest rest' gap old new : List Line} {h : Hunk Line} {inserted : Bool} {bound : Nat}

theorem Written.stands_none : Written.none.Stands original false :=
  ⟨Nat.zero_le _, rfl⟩

theorem Written.Stands.past (stands : written.Stands original inserted)
    (cut : original.drop written.cursor = gap ++ (h.old ++ old)) :
    (written.past gap h).Stands original (h.old.length = 0) where
  bound := by
    have length := congrArg List.length cut
    have := stands.bound
    simp only [List.length_drop, List.length_append] at length
    simp only [Written.past]
    omega
  ends := by
    simp only [Written.past, decide_eq_true_eq]
    split <;> omega

/-- What a hunk has to be at the place that the loop has reached. -/
structure Taken (original : List Line) (written : Written) (inserted : Bool) (header : Line)
    (h : Hunk Line) (gap old : List Line) : Prop where
  matches_header : matchHunk header = some (rangeOf h)
  filled : h.body ≠ []
  cut : original.drop written.cursor = gap ++ (h.old ++ old)
  apart : inserted = true → gap ≠ []
  old_at : h.oldStart = position (written.cursor + gap.length) h.old
  new_at : h.newStart = position (written.output.length + gap.length) h.new
  few : written.hunks + 1 ≤ 4096

theorem takeHunk_sound (stands : written.Stands original inserted)
    (taken : takeHunk original written header rest = .ok (written', rest')) :
    ∃ h gap old, Taken original written inserted header h gap old ∧
      rest = h.body.map markLine ++ rest' ∧ written' = written.past gap h := by
  simp only [takeHunk, bind_eq_ok, orFail_eq_ok, require_eq_ok, pure_eq_ok] at taken
  obtain ⟨range, found, -, some, -, place, -, positive, -, newStart, ⟨seen, left⟩, lines, -, few, same⟩ := taken
  obtain ⟨start, at_start⟩ : ∃ start : Nat,
      (if range.oldCount ≠ 0 then (range.oldStart : Int) - 1 else range.oldStart) = start :=
    ⟨_, (Int.toNat_of_nonneg place.1).symm⟩
  rw [at_start] at place newStart lines same
  obtain ⟨-, within, after, past⟩ := place
  simp only [Int.toNat_natCast] at newStart lines same
  obtain ⟨body, rfl, oldCount, newCount, occurs, output⟩ :=
    takeLines_sound (Nat.zero_le _) (Nat.zero_le _) lines
  obtain ⟨old, occurs⟩ := occurs
  simp only [Nat.zero_add, Nat.add_zero] at oldCount newCount occurs output
  have length : ((original.drop written.cursor).take (start - written.cursor)).length =
      start - written.cursor := by
    rw [List.length_take, List.length_drop]
    omega
  have reached : written.cursor + (start - written.cursor) = start := by omega
  have cut : original.drop written.cursor =
      (original.drop written.cursor).take (start - written.cursor) ++ (oldLines body ++ old) := by
    rw [occurs, ← reached, ← List.drop_drop, reached, List.take_append_drop]
  obtain ⟨rfl, rfl⟩ := Prod.mk.inj same
  refine ⟨⟨range.oldStart, range.newStart, body⟩,
    (original.drop written.cursor).take (start - written.cursor), old, ?_, rfl, ?_⟩
  · refine ⟨?_, ?_, cut, ?_, ?_, ?_, few⟩
    · rw [found, rangeOf, Hunk.old, Hunk.new, oldCount, newCount]
    · rintro rfl
      simp only [oldLines, newLines, List.filter_nil, List.map_nil, List.length_nil] at oldCount newCount
      omega
    · rintro rfl
      rw [stands.ends, if_pos rfl] at past
      exact List.ne_nil_of_length_pos (by omega)
    · rw [length, reached, position_eq, Hunk.old, oldCount]
      by_cases empty : range.oldCount = 0
      · rw [if_neg (not_not.mpr empty)] at at_start
        rw [if_pos empty]
        exact Int.ofNat_inj.mp at_start
      · rw [if_pos empty] at at_start
        rw [if_neg empty]
        exact Int.ofNat_inj.mp (by omega : (range.oldStart : Int) = (start + 1 : Nat))
    · rw [newStart, List.length_append, position_eq, Hunk.new, newCount]
      exact ite_not _ _ _
  · simp only [Written.past, length, reached, Hunk.old, Hunk.new, output, oldCount]
    simp

theorem takeHunk_complete (stands : written.Stands original inserted)
    (taken : Taken original written inserted header h gap old) :
    takeHunk original written header (h.body.map markLine ++ rest) = .ok (written.past gap h, rest) := by
  have length := congrArg List.length taken.cut
  have bound := stands.bound
  simp only [List.length_drop, List.length_append] at length
  have at_start : (if (rangeOf h).oldCount ≠ 0 then ((rangeOf h).oldStart : Int) - 1
      else (rangeOf h).oldStart) = (written.cursor + gap.length : Nat) := by
    simp only [rangeOf, taken.old_at, position_eq]
    split <;> simp_all
  have kept : (original.drop written.cursor).take (written.cursor + gap.length - written.cursor) = gap := by
    rw [taken.cut, Nat.add_sub_cancel_left, List.take_left]
  have stands' : oldLines h.body <+: original.drop (written.cursor + gap.length + 0) := by
    rw [Nat.add_zero, ← List.drop_drop, taken.cut, List.drop_left]
    exact List.prefix_append _ _
  have lines := @takeLines_complete original (written.cursor + gap.length) (rangeOf h)
    ⟨0, 0, written.output ++ gap⟩ rest h.body (Nat.zero_add _) (Nat.zero_add _) stands'
  have filled := exists_line taken.filled
  simp only [takeHunk, bind_eq_ok, orFail_eq_ok, require_eq_ok, pure_eq_ok]
  refine ⟨rangeOf h, taken.matches_header, (), ?_, (), ?_, (), ?_, (), ?_,
    (⟨h.old.length, h.new.length, written.output ++ gap ++ newLines h.body⟩, rest), ?_, (),
    taken.few, ?_⟩
  · simp only [rangeOf]
    exact filled.imp (Nat.ne_of_gt ·) (Nat.ne_of_gt ·)
  · rw [at_start, stands.ends]
    refine ⟨by omega, by omega, by omega, ?_⟩
    split
    · rename_i there
      have := List.length_pos_of_ne_nil (taken.apart there)
      omega
    · omega
  · simp only [rangeOf, taken.old_at, position_eq]
    split <;> omega
  · simp only [at_start, Int.toNat_natCast, kept, List.length_append]
    simp only [rangeOf, taken.new_at, position_eq]
    split <;> simp_all
  · rw [at_start, Int.toNat_natCast, kept]
    exact lines
  · rw [at_start, Int.toNat_natCast]
    rfl

theorem Written.Stands.drop_past (cut : original.drop written.cursor = gap ++ (h.old ++ old)) :
    original.drop (written.past gap h).cursor = old := by
  rw [Written.past, Nat.add_assoc, ← List.drop_drop, cut, ← List.append_assoc, ← List.length_append,
    List.drop_left]

theorem begins_of_match {range : Range} (found : matchHunk header = some range) :
    "@@ ".toList <+: header := by
  simp only [matchHunk, Option.bind_eq_bind, Option.bind_eq_some_iff, skip_eq_some] at found
  obtain ⟨line, rfl, -⟩ := found
  exact ⟨'-' :: line, rfl⟩

/-- The heads of the hunks declare them. -/
def Declared (hunks : List Headed) : Prop :=
  ∀ entry ∈ hunks, matchHunk entry.1 = some (rangeOf entry.2) ∧ entry.2.body ≠ []

theorem takeHunks_sound (stands : written.Stands original inserted) (short : lines.length ≤ bound)
    (taken : takeHunks original bound written lines = .ok (written', rest)) :
    ∃ hunks new, lines = hunks.flatMap Headed.lines ++ rest ∧ Declared hunks ∧
      Applied inserted written.cursor written.output.length (hunks.map Prod.snd)
        (original.drop written.cursor) new ∧
      written'.output ++ original.drop written'.cursor = written.output ++ new ∧
      written'.hunks = written.hunks + hunks.length := by
  have stop (written : Written) (inserted : Bool) : ∃ hunks new, rest = hunks.flatMap Headed.lines ++ rest ∧
      Declared hunks ∧ Applied inserted written.cursor written.output.length (hunks.map Prod.snd)
        (original.drop written.cursor) new ∧
      written.output ++ original.drop written.cursor = written.output ++ new ∧
      written.hunks = written.hunks + hunks.length :=
    ⟨[], _, rfl, fun _ mem => absurd mem List.not_mem_nil, .done, rfl, rfl⟩
  induction bound generalizing written lines inserted with
  | zero =>
    rw [List.length_eq_zero_iff.mp (Nat.le_zero.mp short), takeHunks] at taken
    cases taken
    exact (List.length_eq_zero_iff.mp (Nat.le_zero.mp short)) ▸ stop written' inserted
  | succ bound ih =>
    cases lines with
    | nil =>
      cases taken
      exact stop written' inserted
    | cons line lines =>
      rw [takeHunks] at taken
      split at taken
      · obtain ⟨⟨next, left⟩, first, others⟩ := bind_eq_ok.mp taken
        obtain ⟨h, gap, old, found, rfl, rfl⟩ := takeHunk_sound stands first
        have short' : left.length ≤ bound := by
          simp only [List.length_cons, List.length_append] at short
          omega
        obtain ⟨hunks, new, rfl, declared, applied, output, counted⟩ :=
          ih (stands.past found.cut) short' others
        refine ⟨(line, h) :: hunks, gap ++ (h.new ++ new), ?_, ?_, ?_, ?_, ?_⟩
        · simp [Headed.lines]
        · exact List.forall_mem_cons.mpr ⟨⟨found.matches_header, found.filled⟩, declared⟩
        · rw [Written.Stands.drop_past found.cut] at applied
          rw [found.cut]
          refine .hunk found.apart found.old_at found.new_at ?_
          simpa [Written.past, Nat.add_assoc] using applied
        · rw [output, Written.output_past]
          simp
        · rw [counted, Written.hunks_past, List.length_cons]
          omega
      · cases taken
        exact stop written' inserted

theorem takeHunks_complete {hunks : List Headed} (stands : written.Stands original inserted)
    (applied : Applied inserted written.cursor written.output.length (hunks.map Prod.snd)
      (original.drop written.cursor) new) (declared : Declared hunks)
    (few : written.hunks + hunks.length ≤ 4096)
    (short : (hunks.flatMap Headed.lines ++ rest).length ≤ bound)
    (stop : ∀ line ∈ rest.head?, ¬ "@@ ".toList <+: line) :
    ∃ written', takeHunks original bound written (hunks.flatMap Headed.lines ++ rest) =
        .ok (written', rest) ∧
      written'.output ++ original.drop written'.cursor = written.output ++ new ∧
      written'.hunks = written.hunks + hunks.length := by
  induction hunks generalizing written inserted bound new with
  | nil =>
    refine ⟨written, ?_, ?_, rfl⟩
    · cases bound with
      | zero => rfl
      | succ bound =>
        cases rest with
        | nil => rfl
        | cons line rest => exact if_neg (stop line rfl)
    · cases applied
      rfl
  | cons entry hunks ih =>
    obtain ⟨header, h⟩ := entry
    obtain ⟨declares, others⟩ := List.forall_mem_cons.mp declared
    generalize cut : original.drop written.cursor = remaining at applied
    cases applied with
    | @hunk _ _ _ _ _ gap old new apart old_at new_at applied =>
      have found : Taken original written inserted header h gap old :=
        ⟨declares.1, declares.2, cut, apart, old_at, new_at, by rw [List.length_cons] at few; omega⟩
      cases bound with
      | zero => exact absurd (Nat.le_zero.mp short) (by simp [Headed.lines])
      | succ bound =>
        have applied' : Applied (decide (h.old.length = 0)) (written.past gap h).cursor
            (written.past gap h).output.length (hunks.map Prod.snd)
            (original.drop (written.past gap h).cursor) new := by
          rw [Written.Stands.drop_past cut]
          simpa [Written.past, Nat.add_assoc] using applied
        have few' : (written.past gap h).hunks + hunks.length ≤ 4096 := by
          rw [List.length_cons] at few
          rw [Written.hunks_past]
          omega
        have short' : (hunks.flatMap Headed.lines ++ rest).length ≤ bound := by
          simp only [List.flatMap_cons, Headed.lines, List.cons_append, List.length_cons,
            List.length_append] at short ⊢
          omega
        obtain ⟨written', taken, output, counted⟩ :=
          ih (stands.past cut) applied' others few' short'
        refine ⟨written', ?_, ?_, ?_⟩
        · rw [List.flatMap_cons, Headed.lines, List.append_assoc, List.cons_append, takeHunks,
            if_pos (begins_of_match declares.1), takeHunk_complete stands found]
          exact taken
        · rw [output, Written.output_past]
          simp
        · rw [counted, Written.hunks_past, List.length_cons]
          omega

end Hunks

end Reproof.Repair.UnifiedDiff

import Reproof.Repair.Edits.UnifiedDiff.Files

/-! Edited copies of files rendered as a unified diff, which is read back as the same edits. -/

namespace Reproof.Repair.UnifiedDiff

open Library Contracts Execution.Wire

def numeral (n : Nat) : Line := Nat.toDigits 10 n

/-- The count of a hunk's lines, left out where it is one. -/
def counted (n : Nat) : Line := if n = 1 then [] else ',' :: numeral n

/-- The line at the head of a hunk. -/
def header (h : Hunk Line) : Line :=
  "@@ -".toList ++ (numeral h.oldStart ++ (counted h.old.length ++ (" +".toList ++
    (numeral h.newStart ++ (counted h.new.length ++ (" @@".toList ++ ['\n']))))))

/-- A file, a copy of it, and the hunks by which they differ. -/
structure Change where
  path : String
  before : String
  after : String
  layout : Layout Line

namespace Change

def edit (change : Change) : Edit := ⟨change.path, change.before, change.after⟩

def file (change : Change) : FileDiff :=
  ⟨[], change.path, change.layout.hunks.map fun h => (header h, h)⟩

end Change

def render (changes : List Change) : String :=
  String.ofList (changes.flatMap fun change => change.file.lines).flatten

section Headers

variable {rest : Line} {n : Nat} {h : Hunk Line}

theorem stops_space : Json.Stops (' ' :: rest) := by
  intro c same
  cases same
  decide

theorem digits_numeral (stops : Json.Stops rest) : Json.digits (numeral n ++ rest) = (numeral n, rest) := by
  have all : ∀ c ∈ numeral n, c.isDigit = true :=
    fun c => Nat.isDigit_of_mem_toDigits (by decide) (by decide)
  have alone : Json.digits (numeral n) = (numeral n, []) := by
    simp only [Json.digits, Prod.mk.injEq]
    exact ⟨List.takeWhile_eq_self_iff.mpr all, List.dropWhile_eq_nil_iff.mpr all⟩
  rw [Json.digits_append stops, alone]
  rfl

theorem number_numeral (few : n < 10 ^ 7) (stops : Json.Stops rest) :
    number (numeral n ++ rest) = some (n, rest) := by
  have short : (numeral n).length ≤ 7 := (Nat.length_toDigits_le_iff (by decide) (by decide)).mpr few
  have filled : 1 ≤ (numeral n).length := Nat.length_toDigits_pos
  rw [number, digits_numeral stops]
  exact (if_pos ⟨filled, short⟩).trans (congrArg (fun k => some (k, rest)) Nat.ofDigitChars_ten_toDigits)

theorem count_counted (few : n < 10 ^ 7) :
    count (counted n ++ (' ' :: rest)) = some (n, ' ' :: rest) := by
  by_cases one : n = 1
  · subst one
    rfl
  · have comma : skip "," (counted n ++ (' ' :: rest)) = some (numeral n ++ (' ' :: rest)) := by
      rw [counted, if_neg one]
      rfl
    rw [count, comma]
    exact number_numeral few stops_space

theorem stops_counted : Json.Stops (counted n ++ (' ' :: rest)) := by
  by_cases one : n = 1
  · rw [counted, if_pos one]
    exact stops_space
  · rw [counted, if_neg one]
    exact Json.stops_cons (.inl rfl)

/-- The numbers that a hunk declares are short enough for its header. -/
structure Numbered (h : Hunk Line) : Prop where
  oldStart : h.oldStart < 10 ^ 7
  oldCount : h.old.length < 10 ^ 7
  newStart : h.newStart < 10 ^ 7
  newCount : h.new.length < 10 ^ 7

theorem matchHunk_header (numbered : Numbered h) : matchHunk (header h) = some (rangeOf h) := by
  simp only [matchHunk, Option.bind_eq_bind, Option.bind_eq_some_iff]
  refine ⟨_, skip_eq_some.mpr rfl, _, number_numeral numbered.oldStart stops_counted,
    _, count_counted numbered.oldCount, _, skip_eq_some.mpr rfl,
    _, number_numeral numbered.newStart stops_counted, _, count_counted numbered.newCount,
    _, skip_eq_some.mpr rfl, (), ?_, rfl⟩
  exact if_pos (.inl rfl)

end Headers

/-- What a rendering is made of: a source, a copy of it, and the hunks between them. -/
structure Change.Renders (sources : Dict String String) (change : Change) : Prop where
  source : sources.get? change.path = some change.before
  ended : change.before.toList.getLast? = some '\n'
  small : (utf8 change.before).length ≤ maxText ∧ (utf8 change.after).length ≤ maxText
  lines : ∀ line ∈ change.layout.old, IsLine '\n' line
  old : change.layout.old.flatten = change.before.toList
  new : change.layout.new.flatten = change.after.toList
  separated : change.layout.Separated
  plain : ∀ cut ∈ change.layout.cuts, ∀ line ∈ cut.2, IsPlain line.2
  plain_path : ∀ c ∈ change.path.toList, c ∉ lineEnds
  changed : change.before ≠ change.after

/-- What is supported beyond that: a path that may be transferred, a copy that is not empty, and texts
without NUL and without a carriage return. -/
structure Change.Supported (python : Interpreter) (change : Change) : Prop where
  safe : safeTransferPath python (.str change.path) = .ok change.path
  filled : change.after ≠ ""
  no_return : '\r' ∉ change.before.toList
  no_nul : '\x00' ∉ change.before.toList ∧ '\x00' ∉ change.after.toList

structure WithinLimits (python : Interpreter) (changes : List Change) : Prop where
  diff : (utf8 (render changes)).length ≤ maxDiff
  hunks : ∀ change ∈ changes, change.layout.cuts.length ≤ 4096
  files : changes.length ≤ maxDiffFiles
  edits : ∃ raw, canonical python (.list ((changes.map Change.edit).map Edit.document)) = some raw ∧
    raw.length ≤ maxDiff

/-- A line with no line end but its newline, and without NUL. -/
def IsClean (line : Line) : Prop :=
  ∃ content, line = content ++ ['\n'] ∧ ∀ c ∈ content, c ∉ lineEnds ∧ c ≠ '\x00'

section Clean

variable {line : Line} {n : Nat} {h : Hunk Line} {c : Char} {path : String} {python : Interpreter}
  {mark : Mark}

theorem IsClean.isPlain (clean : IsClean line) : IsPlain line := by
  obtain ⟨content, rfl, free⟩ := clean
  exact ⟨content, rfl, fun c mem => (free c mem).1⟩

theorem IsClean.free (clean : IsClean line) : '\r' ∉ line ∧ '\x00' ∉ line := by
  obtain ⟨content, rfl, free⟩ := clean
  constructor
  · intro mem
    rcases List.mem_append.mp mem with inside | ending
    · exact (free _ inside).1 (by decide)
    · exact absurd ending (by decide)
  · intro mem
    rcases List.mem_append.mp mem with inside | ending
    · exact (free _ inside).2 rfl
    · exact absurd ending (by decide)

theorem clean_of_digit (digit : c.isDigit = true) : c ∉ lineEnds ∧ c ≠ '\x00' := by
  have other : ∀ c ∈ '\x00' :: lineEnds, c.isDigit = false := by decide
  refine ⟨fun mem => ?_, ?_⟩
  · rw [other c (List.mem_cons_of_mem _ mem)] at digit
    cases digit
  · rintro rfl
    cases digit

theorem clean_numeral (mem : c ∈ numeral n) : c ∉ lineEnds ∧ c ≠ '\x00' :=
  clean_of_digit (Nat.isDigit_of_mem_toDigits (by decide) (by decide) mem)

theorem clean_counted (mem : c ∈ counted n) : c ∉ lineEnds ∧ c ≠ '\x00' := by
  unfold counted at mem
  split at mem
  · cases mem
  · cases mem with
    | head => decide
    | tail _ mem => exact clean_numeral mem

theorem isClean_header : IsClean (header h) := by
  refine ⟨"@@ -".toList ++ (numeral h.oldStart ++ (counted h.old.length ++ (" +".toList ++
    (numeral h.newStart ++ (counted h.new.length ++ " @@".toList))))), ?_, fun c mem => ?_⟩
  · simp only [header, List.append_assoc]
  · have opening : ∀ c ∈ "@@ -".toList, c ∉ lineEnds ∧ c ≠ '\x00' := by decide
    have middle : ∀ c ∈ " +".toList, c ∉ lineEnds ∧ c ≠ '\x00' := by decide
    have closing : ∀ c ∈ " @@".toList, c ∉ lineEnds ∧ c ≠ '\x00' := by decide
    simp only [List.mem_append] at mem
    rcases mem with mem | mem | mem | mem | mem | mem | mem
    · exact opening c mem
    · exact clean_numeral mem
    · exact clean_counted mem
    · exact middle c mem
    · exact clean_numeral mem
    · exact clean_counted mem
    · exact closing c mem

theorem isClean_markLine (plain : IsPlain line) (no_nul : '\x00' ∉ line) :
    IsClean (markLine (mark, line)) := by
  obtain ⟨content, rfl, free⟩ := plain
  have signs : ∀ mark, sign mark ∉ lineEnds ∧ sign mark ≠ '\x00' := by
    intro mark
    cases mark <;> decide
  refine ⟨sign mark :: content, rfl, List.forall_mem_cons.mpr ⟨signs mark, fun c mem => ⟨free c mem, ?_⟩⟩⟩
  rintro rfl
  exact no_nul (List.mem_append_left _ mem)

theorem safe_no_nul (safe : safeTransferPath python (.str path) = .ok path) : '\x00' ∉ path.toList := by
  simp only [safeTransferPath, safeRelativePath, boundedText, bind_eq_ok, require_eq_ok, pure_eq_ok] at safe
  obtain ⟨_, ⟨_, ⟨-, -, -, printable, -, -, rfl⟩, -⟩, -, -, rfl⟩ := safe
  exact fun mem => printable _ mem (.inl (by decide))

theorem isClean_headers (plain : ∀ c ∈ path.toList, c ∉ lineEnds) (no_nul : '\x00' ∉ path.toList) :
    ∀ line ∈ FileDiff.headers path, IsClean line := by
  have clean : ∀ c ∈ path.toList, c ∉ lineEnds ∧ c ≠ '\x00' := by
    intro c mem
    refine ⟨plain c mem, ?_⟩
    rintro rfl
    exact no_nul mem
  have starts : ∀ c ∈ "--- a/".toList ++ "+++ b/".toList, c ∉ lineEnds ∧ c ≠ '\x00' := by decide
  refine List.forall_mem_cons.mpr ⟨?_, List.forall_mem_singleton.mpr ?_⟩
  · refine ⟨"--- a/".toList ++ path.toList, (List.append_assoc _ _ _).symm, fun c mem => ?_⟩
    exact (List.mem_append.mp mem).elim (fun mem => starts c (List.mem_append_left _ mem)) (clean c)
  · refine ⟨"+++ b/".toList ++ path.toList, (List.append_assoc _ _ _).symm, fun c mem => ?_⟩
    exact (List.mem_append.mp mem).elim (fun mem => starts c (List.mem_append_right _ mem)) (clean c)

end Clean

theorem length_le_utf8 {text : String} : text.toList.length ≤ (utf8 text).length := by
  have encoded (chars : List Char) : chars.length ≤ chars.utf8Encode.size := by
    induction chars with
    | nil => exact Nat.zero_le _
    | cons c rest ih =>
      rw [List.utf8Encode_cons, ByteArray.size_append, List.utf8Encode_singleton,
        List.size_toByteArray, String.length_utf8EncodeChar, List.length_cons]
      have positive := c.utf8Size_pos
      omega
  have whole := encoded text.toList
  rw [← String.toByteArray_ofList, String.ofList_toList] at whole
  exact whole

namespace Change.Renders

variable {sources : Dict String String} {change : Change} {python : Interpreter} {h : Hunk Line}
  {line : Line}

theorem applied (renders : change.Renders sources) :
    Applied false 0 0 change.layout.hunks change.layout.old change.layout.new :=
  Layout.applied renders.separated

theorem isLine_new (renders : change.Renders sources) (mem : line ∈ change.layout.new) :
    IsLine '\n' line := by
  rcases renders.applied.mem_new mem with kept | ⟨h, there, written⟩
  · exact renders.lines line kept
  · obtain ⟨cut, found, same⟩ := Layout.exists_cut_of_hunk there
    obtain ⟨mark, marked⟩ := exists_mark written
    exact (renders.plain cut found (mark, line) (same ▸ marked)).isLine

theorem numbered (renders : change.Renders sources) (mem : h ∈ change.layout.hunks) : Numbered h := by
  have old := (renders.applied.bounds mem).2
  have new := renders.applied.new_bounds mem
  have oldLines := length_le_flatten renders.lines
  have newLines := length_le_flatten fun line mem => renders.isLine_new mem
  have before := @length_le_utf8 change.before
  have after := @length_le_utf8 change.after
  have small := renders.small
  rw [renders.old] at oldLines
  rw [renders.new] at newLines
  unfold maxText at small
  simp only [Hunk.stop, Hunk.start] at old
  simp only [Hunk.newPlace] at new
  constructor <;> split at old <;> split at new <;> omega

theorem declared (renders : change.Renders sources) : Declared change.file.hunks := by
  intro entry mem
  obtain ⟨h, there, rfl⟩ := List.mem_map.mp mem
  exact ⟨matchHunk_header (renders.numbered there), Layout.filled_hunks renders.separated there⟩

theorem isClean (renders : change.Renders sources) (supported : change.Supported python) :
    ∀ line ∈ change.file.lines, IsClean line := by
  intro line mem
  rcases List.mem_append.mp mem with heads | inside
  · cases heads
  · rcases List.mem_append.mp inside with heads | inside
    · exact isClean_headers renders.plain_path (safe_no_nul supported.safe) line heads
    · obtain ⟨entry, there, shown⟩ := List.mem_flatMap.mp inside
      obtain ⟨h, hunk, rfl⟩ := List.mem_map.mp there
      obtain ⟨cut, found, same⟩ := Layout.exists_cut_of_hunk hunk
      cases shown with
      | head => exact isClean_header
      | tail _ shown =>
        obtain ⟨⟨mark, content⟩, marked, rfl⟩ := List.mem_map.mp shown
        rw [← same] at marked
        refine isClean_markLine (renders.plain cut found _ marked) fun nul => ?_
        rcases Layout.mem_of_body found marked with old | new
        · apply supported.no_nul.1
          rw [← renders.old]
          exact List.mem_flatten.mpr ⟨content, old, nul⟩
        · apply supported.no_nul.2
          rw [← renders.new]
          exact List.mem_flatten.mpr ⟨content, new, nul⟩

end Change.Renders

section Complete

variable {python : Interpreter} {sources : Dict String String} {change : Change}
  {changes : List Change} {seen : List String} {rest : List Line} {edits : List Edit} {bound : Nat}

theorem takeGit_none {path : String} {more : List Line} :
    takeGit (FileDiff.headers path ++ more) = .ok (none, FileDiff.headers path ++ more) := by
  have other : skip "diff --git " ("--- a/".toList ++ (path.toList ++ ['\n'])) = none := by
    simp [skip]
  simp only [FileDiff.headers, List.cons_append, takeGit, other]
  rfl

theorem takeHeaders_headers {path : String} {more : List Line} :
    takeHeaders (FileDiff.headers path ++ more) = some (path.toList, path.toList, more) := by
  simp only [FileDiff.headers, List.cons_append, List.nil_append, takeHeaders, Option.bind_eq_bind,
    Option.bind_eq_some_iff]
  refine ⟨_, skip_eq_some.mpr rfl, _, skip_eq_some.mpr rfl, ?_⟩
  rw [List.dropLast_concat]
  rfl

theorem takeFile_complete (renders : change.Renders sources) (supported : change.Supported python)
    (few : change.layout.cuts.length ≤ 4096) (fresh : change.path ∉ seen)
    (files : seen.length < maxDiffFiles) (stop : ∀ line ∈ rest.head?, ¬ "@@ ".toList <+: line) :
    takeFile python sources seen (change.file.lines ++ rest) = .ok (change.edit, rest) := by
  have text : IsText change.before :=
    ⟨renders.ended, supported.no_return, supported.no_nul.1, renders.small.1⟩
  have some : change.layout.old ≠ [] := by
    intro none
    have empty := renders.old
    rw [none] at empty
    have ended := renders.ended
    rw [← empty] at ended
    cases ended
  have original : Library.lines '\n' change.before.toList = change.layout.old := by
    rw [← renders.old, lines_flatten renders.lines some]
  have applied : Applied false Written.none.cursor Written.none.output.length
      (change.file.hunks.map Prod.snd) ((Library.lines '\n' change.before.toList).drop 0)
      change.layout.new := by
    rw [original, Change.file, List.map_map]
    exact (List.map_id change.layout.hunks).symm ▸ renders.applied
  have count : change.file.hunks.length = change.layout.cuts.length := by
    rw [Change.file, List.length_map, Layout.length_hunks]
  obtain ⟨written, taken, output, counted⟩ := takeHunks_complete Written.stands_none applied
    renders.declared (by rw [count]; exact (Nat.zero_add _).symm ▸ few) (Nat.le_refl _) stop
  have after : (written.output ++ (Library.lines '\n' change.before.toList).drop written.cursor).flatten =
      change.after.toList := by
    rw [output]
    exact renders.new
  have hunks : 0 < written.hunks := by
    rw [counted, count]
    cases cuts : change.layout.cuts with
    | nil =>
      refine absurd ?_ renders.changed
      rw [← String.toList_inj, ← renders.old, ← renders.new, Layout.old, Layout.new, cuts]
      rfl
    | cons cut cuts => exact Nat.lt_of_lt_of_le (Nat.succ_pos _) (Nat.le_add_left _ _)
  have shape : change.file.lines ++ rest = FileDiff.headers change.path ++
      (change.file.hunks.flatMap Headed.lines ++ rest) := List.append_assoc _ _ _
  rw [shape]
  simp only [takeFile, bind_eq_ok, orFail_eq_ok, require_eq_ok, pure_eq_ok]
  refine ⟨_, takeGit_none, _, takeHeaders_headers, (), ⟨rfl, fun _ none => by cases none⟩, change.path, ?_,
    (), ⟨fresh, files⟩, change.before, renders.source, (), text, _, taken, (), hunks, (), ⟨?_, ?_, ?_⟩, ?_⟩
  · rw [String.ofList_toList]
    exact supported.safe
  · rw [after]
    exact fun none => supported.filled (String.toList_inj.mp none)
  · rw [after]
    exact fun same => renders.changed (String.toList_inj.mp same.symm)
  · rw [after, encodeText, String.ofList_toList]
    exact renders.small.2
  · rw [after, String.ofList_toList]
    rfl

theorem takeFiles_succ {lines : List Line} (filled : 0 < lines.length) :
    takeFiles python sources (bound + 1) edits lines =
      takeFile python sources (edits.map Edit.path) lines >>= fun (edit, rest) =>
        takeFiles python sources bound (edits ++ [edit]) rest := by
  cases lines with
  | nil => exact absurd filled (Nat.lt_irrefl 0)
  | cons line rest => rfl

theorem takeFiles_complete (renders : ∀ change ∈ changes, change.Renders sources)
    (supported : ∀ change ∈ changes, change.Supported python)
    (few : ∀ change ∈ changes, change.layout.cuts.length ≤ 4096)
    (distinct : (edits.map Edit.path ++ changes.map Change.path).Nodup)
    (files : edits.length + changes.length ≤ maxDiffFiles)
    (short : (changes.flatMap fun change => change.file.lines).length ≤ bound) :
    takeFiles python sources bound edits (changes.flatMap fun change => change.file.lines) =
      .ok (edits ++ changes.map Change.edit) := by
  induction changes generalizing edits bound with
  | nil =>
    rw [List.map_nil, List.append_nil]
    cases bound <;> rfl
  | cons change changes ih =>
    obtain ⟨renders, others⟩ := List.forall_mem_cons.mp renders
    obtain ⟨supported, supports⟩ := List.forall_mem_cons.mp supported
    obtain ⟨few, fews⟩ := List.forall_mem_cons.mp few
    rw [List.map_cons] at distinct
    rw [List.length_cons] at files
    rw [List.flatMap_cons, List.length_append] at short
    have fresh : change.path ∉ edits.map Edit.path := fun there =>
      (List.disjoint_of_nodup_append distinct) there List.mem_cons_self
    have stop : ∀ line ∈ (changes.flatMap fun change => change.file.lines).head?,
        ¬ "@@ ".toList <+: line := by
      cases changes with
      | nil => exact fun _ none => nomatch none
      | cons next changes =>
        rintro line same
        cases same
        rintro ⟨tail, same⟩
        cases same
    have first := takeFile_complete renders supported few fresh
      (by rw [List.length_map]; omega) stop
    have headed : 0 < change.file.lines.length := by
      simp only [Change.file, FileDiff.lines, FileDiff.headers, List.length_append, List.length_cons]
      omega
    cases bound with
    | zero => omega
    | succ bound =>
      have short' : (changes.flatMap fun change => change.file.lines).length ≤ bound := by omega
      have distinct' : ((edits ++ [change.edit]).map Edit.path ++ changes.map Change.path).Nodup := by
        rw [List.map_append, List.append_assoc]
        exact distinct
      have files' : (edits ++ [change.edit]).length + changes.length ≤ maxDiffFiles := by
        rw [List.length_append, List.length_singleton]
        omega
      have next := ih others supports fews distinct' files' short'
      rw [List.append_assoc] at next
      rw [List.flatMap_cons, takeFiles_succ (by rw [List.length_append]; omega), first]
      exact next

theorem exactEdits_complete (nonempty : changes ≠ []) (distinct : (changes.map Change.path).Nodup)
    (renders : ∀ change ∈ changes, change.Renders sources)
    (supported : ∀ change ∈ changes, change.Supported python) (limits : WithinLimits python changes) :
    exactEdits python (render changes) sources = .ok (changes.map Change.edit) := by
  have clean : ∀ line ∈ changes.flatMap fun change => change.file.lines, IsClean line := by
    intro line mem
    obtain ⟨change, there, shown⟩ := List.mem_flatMap.mp mem
    exact (renders change there).isClean (supported change there) line shown
  have filled : (changes.flatMap fun change => change.file.lines) ≠ [] := by
    cases changes with
    | nil => exact absurd rfl nonempty
    | cons change changes => exact List.cons_ne_nil _ _
  have cut : splitlines (render changes).toList = changes.flatMap fun change => change.file.lines := by
    rw [render, String.toList_ofList]
    exact splitlines_flatten fun line mem => (clean line mem).isPlain
  have lines : Library.lines '\n' (render changes).toList =
      changes.flatMap fun change => change.file.lines := by
    rw [render, String.toList_ofList]
    exact lines_flatten (fun line mem => (clean line mem).isPlain.isLine) filled
  have free : '\r' ∉ (render changes).toList ∧ '\x00' ∉ (render changes).toList := by
    rw [render, String.toList_ofList]
    constructor
    · intro mem
      obtain ⟨line, there, inside⟩ := List.mem_flatten.mp mem
      exact (clean line there).free.1 inside
    · intro mem
      obtain ⟨line, there, inside⟩ := List.mem_flatten.mp mem
      exact (clean line there).free.2 inside
  have ended : (render changes).toList.getLast? = some '\n' := by
    rw [render, String.toList_ofList]
    exact getLast?_flatten (fun line mem => (clean line mem).isPlain.isLine) filled
  have source : sources.entries ≠ [] := by
    obtain ⟨change, there⟩ := List.exists_mem_of_ne_nil changes nonempty
    exact List.ne_nil_of_mem (Dict.mem_entries.mpr (renders change there).source)
  have taken := @takeFiles_complete python sources changes [] _ renders supported limits.hunks distinct
    ((Nat.zero_add _).symm ▸ limits.files) (Nat.le_refl _)
  obtain ⟨raw, encoded, small⟩ := limits.edits
  simp only [exactEdits, bind_eq_ok, orFail_eq_ok, require_eq_ok, pure_eq_ok]
  refine ⟨(), ⟨limits.diff, free.1, free.2, ended⟩, (), source, (), cut.trans lines.symm, _, ?_, (), ?_,
    raw, encoded, (), small, rfl⟩
  · rw [cut]
    exact taken
  · simpa using nonempty

end Complete

/-- Edited copies are read back from their rendering, and what is read of a diff is what it says: its
hunks replace disjoint intervals of the old lines, at the positions that they declare. -/
theorem exactEdits_exact (python : Interpreter) (sources : Dict String String) :
    (∀ changes : List Change, changes ≠ [] → (changes.map Change.path).Nodup →
      (∀ change ∈ changes, change.Renders sources) → (∀ change ∈ changes, change.Supported python) →
      WithinLimits python changes →
      exactEdits python (render changes) sources = .ok (changes.map Change.edit)) ∧
    ∀ (diff : String) (edits : List Edit), exactEdits python diff sources = .ok edits →
      ∃ files, diff.toList = (files.flatMap FileDiff.lines).flatten ∧
        List.Forall₂ (FileDiff.Applies sources) files edits :=
  ⟨fun _ => exactEdits_complete, fun _ _ => exactEdits_sound⟩

/-- The single line of a file is taken out, and others are put in. -/
def replaced (path after : String) (added : List Line) : Change where
  path
  before := "a\n"
  after
  layout := ⟨[([], (.removed, "a\n".toList) :: added.map (.added, ·))], []⟩

def single (path : String) : Dict String String := Dict.empty.set path "a\n"

/-- An interpreter that folds nothing. -/
def unfolding : Interpreter where
  lower := id
  casefold := id
  nfc := id
  float := String.ofList
  depth := 8
  sha256 _ := ""
  hmac _ _ := ""

theorem renders_replaced {path after : String} {added : List Line}
    (plain : ∀ line ∈ added, IsPlain line) (plain_path : ∀ c ∈ path.toList, c ∉ lineEnds)
    (new : (replaced path after added).layout.new.flatten = after.toList) (small : (utf8 after).length ≤ maxText)
    (changed : "a\n" ≠ after) : (replaced path after added).Renders (single path) where
  source := Dict.get?_set_self
  ended := (by decide : "a\n".toList.getLast? = some '\n')
  small := ⟨(by decide : (utf8 "a\n").length ≤ maxText), small⟩
  lines := by
    have old : (replaced path after added).layout.old = ["a\n".toList] := by
      simp [replaced, Layout.old, Layout.oldCuts, oldLines, Mark.inOld]
    rw [old]
    exact List.forall_mem_singleton.mpr ⟨['a'], rfl, by decide⟩
  old := by simp [replaced, Layout.old, Layout.oldCuts, oldLines, Mark.inOld]
  new := new
  separated := ⟨List.forall_mem_singleton.mpr (List.cons_ne_nil _ _), fun _ mem => absurd mem List.not_mem_nil⟩
  plain := by
    refine List.forall_mem_singleton.mpr (List.forall_mem_cons.mpr ⟨⟨['a'], rfl, by decide⟩, ?_⟩)
    exact List.forall_mem_map.mpr plain
  plain_path := plain_path
  changed := changed

/-- A NUL, an emptied copy, a path that is protected and a diff of nothing are all refused. -/
theorem unsupported_refused :
    ((replaced "a" "\x00\n" ["\x00\n".toList]).Renders (single "a") ∧
      WithinLimits unfolding [replaced "a" "\x00\n" ["\x00\n".toList]] ∧
      exactEdits unfolding (render [replaced "a" "\x00\n" ["\x00\n".toList]]) (single "a") =
        .error "Invalid unified diff") ∧
    ((replaced "a" "" []).Renders (single "a") ∧ WithinLimits unfolding [replaced "a" "" []] ∧
      exactEdits unfolding (render [replaced "a" "" []]) (single "a") =
        .error "Empty, no-op or oversized candidate") ∧
    ((replaced ".env" "b\n" ["b\n".toList]).Renders (single ".env") ∧
      WithinLimits unfolding [replaced ".env" "b\n" ["b\n".toList]] ∧
      exactEdits unfolding (render [replaced ".env" "b\n" ["b\n".toList]]) (single ".env") =
        .error "Invalid path") ∧
    exactEdits unfolding (render []) (single "a") = .error "Invalid unified diff" := by
  refine ⟨⟨?_, ?_, by decide +kernel⟩, ⟨?_, ?_, by decide +kernel⟩, ⟨?_, ?_, by decide +kernel⟩,
    by decide +kernel⟩
  · exact renders_replaced (List.forall_mem_singleton.mpr ⟨['\x00'], rfl, by decide⟩) (by decide)
      (by decide) (by decide) (by decide)
  · exact ⟨by decide +kernel, by decide, by decide, _, rfl, by decide⟩
  · exact renders_replaced (fun _ mem => absurd mem List.not_mem_nil) (by decide) (by decide)
      (by decide) (by decide)
  · exact ⟨by decide +kernel, by decide, by decide, _, rfl, by decide⟩
  · exact renders_replaced (List.forall_mem_singleton.mpr ⟨['b'], rfl, by decide⟩) (by decide)
      (by decide) (by decide) (by decide)
  · exact ⟨by decide +kernel, by decide, by decide, _, rfl, by decide⟩

/-- The first of three lines is taken out, and another is put in after the second. -/
def shifted : Change where
  path := "a"
  before := "a\nb\nc\n"
  after := "b\nd\nc\n"
  layout := ⟨[([], [(.removed, "a\n".toList)]), (["b\n".toList], [(.added, "d\n".toList)])],
    ["c\n".toList]⟩

def three : Dict String String := Dict.empty.set "a" "a\nb\nc\n"

theorem shifted_exact :
    exactEdits unfolding (render [shifted]) three = .ok [shifted.edit] ∧
      ∃ files, (render [shifted]).toList = (files.flatMap FileDiff.lines).flatten ∧
        List.Forall₂ (FileDiff.Applies three) files [shifted.edit] := by
  have plain (c : Char) (free : c ∉ lineEnds) : IsPlain [c, '\n'] :=
    ⟨[c], rfl, List.forall_mem_singleton.mpr free⟩
  constructor
  · refine (exactEdits_exact unfolding three).1 [shifted] (List.cons_ne_nil _ _) (by decide)
      (List.forall_mem_singleton.mpr ?_) (List.forall_mem_singleton.mpr ?_) ?_
    · refine ⟨by decide, by decide, by decide, ?_, by decide, by decide, ⟨by decide, by decide⟩, ?_,
        by decide, by decide⟩
      · exact List.forall_mem_cons.mpr ⟨(plain 'a' (by decide)).isLine, List.forall_mem_cons.mpr
          ⟨(plain 'b' (by decide)).isLine, List.forall_mem_singleton.mpr (plain 'c' (by decide)).isLine⟩⟩
      · exact List.forall_mem_cons.mpr ⟨List.forall_mem_singleton.mpr (plain 'a' (by decide)),
          List.forall_mem_singleton.mpr (List.forall_mem_singleton.mpr (plain 'd' (by decide)))⟩
    · exact ⟨by decide +kernel, by decide, by decide, by decide⟩
    · exact ⟨by decide +kernel, by decide, by decide, _, rfl, by decide⟩
  · exact (exactEdits_exact unfolding three).2 _ _ (by decide +kernel)

end Reproof.Repair.UnifiedDiff

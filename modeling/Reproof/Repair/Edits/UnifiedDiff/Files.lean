import Reproof.Repair.Edits.UnifiedDiff.Hunks

/-! `exact_edits`: a unified diff read as replacements of whole files. -/

namespace Reproof.Repair.UnifiedDiff

open Library Contracts Execution.Wire

/-- `[0-9a-f]{7,64}`. -/
def hexDigits (line : Line) : Option Line :=
  let found := line.takeWhile fun c => c.isDigit ∨ 'a' ≤ c ∧ c ≤ 'f'
  if 7 ≤ found.length ∧ found.length ≤ 64 then some (line.drop found.length) else none

/-- `_INDEX.fullmatch(line)`. -/
def matchIndex (line : Line) : Option Unit := do
  let line ← skip "index " line
  let line ← hexDigits line
  let line ← skip ".." line
  let line ← hexDigits line
  guard (line = ['\n'] ∨ line = " 100644\n".toList)

/-- The path that Git's header names twice. -/
def gitPath (header : Line) : Except String Line := do
  require ("a/".toList <+: header) "Invalid diff header"
  let i ← orFail (index? " b/".toList header) "Invalid diff header"
  require ((header.take i).drop 2 = header.drop (i + 3)) "Rename is not supported"
  pure (header.drop (i + 3))

def skipIndex : List Line → Except String (List Line)
  | [] => pure []
  | line :: rest =>
    if "index ".toList <+: line then do
      let _ ← orFail (matchIndex line) "Invalid index header"
      pure rest
    else pure (line :: rest)

/-- Git's lines over a file, where there are any. -/
def takeGit : List Line → Except String (Option Line × List Line)
  | [] => pure (none, [])
  | line :: rest =>
    match skip "diff --git " line with
    | none => pure (none, line :: rest)
    | some header => do
      let path ← gitPath header.dropLast
      let rest ← skipIndex rest
      pure (some path, rest)

/-- The two headers of a file. -/
def takeHeaders : List Line → Option (Line × Line × List Line)
  | old :: new :: rest => do
    let old ← skip "--- a/" old
    let new ← skip "+++ b/" new
    pure (old.dropLast, new.dropLast, rest)
  | _ => none

def maxText : Nat := 128 * 1024
def maxDiff : Nat := 256 * 1024
def maxDiffFiles : Nat := 64

/-- A text that ends with a newline and has no carriage return and no NUL. -/
structure IsText (text : String) : Prop where
  ended : text.toList.getLast? = some '\n'
  no_return : '\r' ∉ text.toList
  no_nul : '\x00' ∉ text.toList
  small : (utf8 text).length ≤ maxText

instance : DecidablePred IsText := fun text =>
  decidable_of_iff (text.toList.getLast? = some '\n' ∧ '\r' ∉ text.toList ∧ '\x00' ∉ text.toList ∧
      (utf8 text).length ≤ maxText)
    ⟨fun ⟨ended, noReturn, noNul, small⟩ => ⟨ended, noReturn, noNul, small⟩,
      fun text => ⟨text.ended, text.no_return, text.no_nul, text.small⟩⟩

/-- One round of the loop over the files; `seen` holds the paths so far. -/
def takeFile (python : Interpreter) (sources : Dict String String) (seen : List String)
    (lines : List Line) : Except String (Edit × List Line) := do
  let (git, lines) ← takeGit lines
  let (old, new, lines) ← orFail (takeHeaders lines) "Expected existing-file headers"
  require (old = new ∧ ∀ path ∈ git, path = old) "Path mismatch"
  let path ← safeTransferPath python (.str (String.ofList old))
  require (path ∉ seen ∧ seen.length < maxDiffFiles) "Undeclared or duplicate path"
  let before ← orFail (sources.get? path) "Undeclared or duplicate path"
  require (IsText before) "Unsupported source text"
  let original := Library.lines '\n' before.toList
  let (written, rest) ← takeHunks original lines.length .none lines
  require (0 < written.hunks) "Missing hunk"
  let after := (written.output ++ original.drop written.cursor).flatten
  require (after ≠ [] ∧ after ≠ before.toList ∧ (encodeText after).length ≤ maxText)
    "Empty, no-op or oversized candidate"
  pure (⟨path, before, String.ofList after⟩, rest)

/-- `while i < len(lines)`; each round takes one of the lines that are left, of which there are no
more than the bound. -/
def takeFiles (python : Interpreter) (sources : Dict String String) :
    Nat → List Edit → List Line → Except String (List Edit)
  | 0, edits, _ => .ok edits
  | _, edits, [] => .ok edits
  | bound + 1, edits, line :: rest => do
    let (edit, rest) ← takeFile python sources (edits.map Edit.path) (line :: rest)
    takeFiles python sources bound (edits ++ [edit]) rest

def exactEdits (python : Interpreter) (diff : String) (sources : Dict String String) :
    Except String (List Edit) := do
  require ((utf8 diff).length ≤ maxDiff ∧ '\r' ∉ diff.toList ∧ '\x00' ∉ diff.toList ∧
    diff.toList.getLast? = some '\n') "Invalid unified diff"
  require (sources.entries ≠ []) "Invalid source packet"
  let lines := splitlines diff.toList
  require (lines = Library.lines '\n' diff.toList) "Invalid line delimiter"
  let edits ← takeFiles python sources lines.length [] lines
  require (edits ≠ []) "Proposal too large"
  let raw ← orFail (canonical python (.list (edits.map Edit.document))) "Invalid protocol data"
  require (raw.length ≤ maxDiff) "Proposal too large"
  pure edits

/-- The part of a diff that is about one file; Git's lines stand over its headers. -/
structure FileDiff where
  heading : List Line
  path : String
  hunks : List Headed

namespace FileDiff

def headers (path : String) : List Line :=
  ["--- a/".toList ++ (path.toList ++ ['\n']), "+++ b/".toList ++ (path.toList ++ ['\n'])]

def lines (file : FileDiff) : List Line :=
  file.heading ++ (headers file.path ++ file.hunks.flatMap Headed.lines)

/-- The edit replaces disjoint intervals of the source's lines, in strict order, each with the lines
of its hunk at the position that the hunk declares, and keeps all other lines. -/
structure Applies (sources : Dict String String) (file : FileDiff) (edit : Edit) : Prop where
  path : edit.path = file.path
  source : sources.get? file.path = some edit.old
  heading : ∀ line ∈ file.heading, "diff --git ".toList <+: line ∨ "index ".toList <+: line
  declared : Declared file.hunks
  applied : Applied false 0 0 (file.hunks.map Prod.snd) (Library.lines '\n' edit.old.toList)
    (Library.lines '\n' edit.new.toList)
  ordered : (file.hunks.map Prod.snd).Pairwise fun h k => h.stop ≤ k.start ∧ h.start < k.start
  old_stands : ∀ entry ∈ file.hunks,
    OccursAt entry.2.old (Library.lines '\n' edit.old.toList) entry.2.start
  new_stands : ∀ entry ∈ file.hunks,
    OccursAt entry.2.new (Library.lines '\n' edit.new.toList) entry.2.newPlace

end FileDiff

section Sound

variable {python : Interpreter} {sources : Dict String String} {seen : List String}
  {lines rest : List Line} {line front tail content : Line} {git : Option Line} {edit : Edit}
  {mark : Mark} {bound : Nat} {edits result : List Edit}

theorem ended_tail (is_line : IsLine '\n' (front ++ tail)) (free : '\n' ∉ front) :
    tail = tail.dropLast ++ ['\n'] := by
  obtain ⟨content, same, -⟩ := is_line
  cases tail using List.reverseRecOn with
  | nil =>
    rw [List.append_nil] at same
    exact absurd (same ▸ List.mem_append_right content List.mem_cons_self) free
  | append_singleton tail c =>
    rw [← List.append_assoc] at same
    rw [List.dropLast_concat, (List.append_inj' same rfl).2]

theorem isLine_of_markLine (is_line : IsLine '\n' (markLine (mark, content))) : IsLine '\n' content := by
  obtain ⟨_ | ⟨c, shown⟩, same, free⟩ := is_line
  · cases mark <;> cases same
  · exact ⟨shown, (List.cons.inj same).2, fun mem => free (List.mem_cons_of_mem _ mem)⟩

theorem takeGit_sound (taken : takeGit lines = .ok (git, rest)) :
    ∃ heading, lines = heading ++ rest ∧
      ∀ line ∈ heading, "diff --git ".toList <+: line ∨ "index ".toList <+: line := by
  cases lines with
  | nil =>
    cases taken
    exact ⟨[], rfl, fun _ mem => absurd mem List.not_mem_nil⟩
  | cons line lines =>
    rw [takeGit] at taken
    split at taken
    · cases taken
      exact ⟨[], rfl, fun _ mem => absurd mem List.not_mem_nil⟩
    · rename_i header found
      have begins : "diff --git ".toList <+: line := ⟨header, (skip_eq_some.mp found).symm⟩
      simp only [bind_eq_ok, pure_eq_ok] at taken
      obtain ⟨path, -, left, skipped, same⟩ := taken
      obtain ⟨-, rfl⟩ := Prod.mk.inj same
      cases lines with
      | nil =>
        cases skipped
        exact ⟨[line], rfl, fun _ mem => List.mem_singleton.mp mem ▸ .inl begins⟩
      | cons next lines =>
        rw [skipIndex] at skipped
        split at skipped
        · rename_i index
          simp only [bind_eq_ok, pure_eq_ok] at skipped
          obtain ⟨-, -, rfl⟩ := skipped
          exact ⟨[line, next], rfl, List.forall_mem_cons.mpr
            ⟨.inl begins, List.forall_mem_singleton.mpr (.inr index)⟩⟩
        · cases skipped
          exact ⟨[line], rfl, fun _ mem => List.mem_singleton.mp mem ▸ .inl begins⟩

theorem takeHeaders_sound {old new : Line} (is_lines : ∀ line ∈ lines, IsLine '\n' line)
    (taken : takeHeaders lines = some (old, new, rest)) :
    lines = ("--- a/".toList ++ (old ++ ['\n'])) :: ("+++ b/".toList ++ (new ++ ['\n'])) :: rest := by
  match lines with
  | [] => cases taken
  | [_] => cases taken
  | first :: second :: others =>
    simp only [takeHeaders, Option.bind_eq_bind, Option.bind_eq_some_iff, skip_eq_some,
      Option.pure_def, Option.some.injEq, Prod.mk.injEq] at taken
    obtain ⟨left, rfl, right, rfl, rfl, rfl, rfl⟩ := taken
    rw [← ended_tail (is_lines _ List.mem_cons_self) (by decide),
      ← ended_tail (is_lines _ (List.mem_cons_of_mem _ List.mem_cons_self)) (by decide)]

theorem safeTransferPath_eq {path text : String}
    (safe : safeTransferPath python (.str path) = .ok text) : text = path := by
  simp only [safeTransferPath, bind_eq_ok, require_eq_ok, pure_eq_ok] at safe
  obtain ⟨found, relative, -, -, rfl⟩ := safe
  exact (Json.str.inj (safeRelativePath_eq relative)).symm

theorem takeFile_sound (is_lines : ∀ line ∈ lines, IsLine '\n' line)
    (taken : takeFile python sources seen lines = .ok (edit, rest)) :
    ∃ file : FileDiff, lines = file.lines ++ rest ∧ file.Applies sources edit := by
  simp only [takeFile, bind_eq_ok, orFail_eq_ok, require_eq_ok, pure_eq_ok] at taken
  obtain ⟨⟨git, below⟩, gitLines, ⟨old, new, left⟩, headers, -, ⟨samePath, -⟩, path, safe, -, -, before,
    found, -, text, ⟨written, others⟩, hunks, -, -, -, ⟨filled, -⟩, same⟩ := taken
  obtain ⟨rfl, rfl⟩ := Prod.mk.inj same
  obtain rfl : old = new := samePath
  obtain rfl : path = String.ofList old := safeTransferPath_eq safe
  obtain ⟨heading, rfl, git⟩ := takeGit_sound gitLines
  have below_lines : ∀ line ∈ below, IsLine '\n' line := fun line mem =>
    is_lines line (List.mem_append_right _ mem)
  obtain rfl := takeHeaders_sound below_lines headers
  obtain ⟨entries, after, rfl, declared, applied, output, -⟩ :=
    takeHunks_sound Written.stands_none (Nat.le_refl _) hunks
  have after_lines : ∀ line ∈ after, IsLine '\n' line := by
    intro line mem
    rcases applied.mem_new mem with kept | ⟨h, headed, written⟩
    · exact isLine_of_mem kept
    · obtain ⟨entry, there, rfl⟩ := List.mem_map.mp headed
      obtain ⟨mark, marked⟩ := exists_mark written
      refine @isLine_of_markLine line mark (below_lines _ ?_)
      refine List.mem_cons_of_mem _ (List.mem_cons_of_mem _ (List.mem_append_left _ ?_))
      exact List.mem_flatMap.mpr ⟨entry, there,
        List.mem_cons_of_mem _ (List.mem_map_of_mem marked)⟩
  have output' : written.output ++ (Library.lines '\n' before.toList).drop written.cursor = after :=
    output
  rw [output'] at filled ⊢
  have some : after ≠ [] := fun none => filled (by rw [none]; rfl)
  have applied' : Applied false 0 0 (entries.map Prod.snd) (Library.lines '\n' before.toList)
      (Library.lines '\n' (String.ofList after.flatten).toList) := by
    rw [String.toList_ofList, lines_flatten after_lines some]
    exact applied
  refine ⟨⟨heading, String.ofList old, entries⟩, ?_, rfl, found, git, declared, applied',
    applied'.ordered, fun entry mem => ?_, fun entry mem => ?_⟩
  · simp [FileDiff.lines, FileDiff.headers]
  · exact @Applied.old_occursAt _ 0 0 _ _ _ _ _ [] applied' rfl (List.mem_map_of_mem mem)
  · exact @Applied.new_occursAt _ 0 0 _ _ _ _ _ [] applied' rfl (List.mem_map_of_mem mem)

/-- The parts of the diff, in order, are applied to the edits. -/
theorem takeFiles_sound (is_lines : ∀ line ∈ lines, IsLine '\n' line) (short : lines.length ≤ bound)
    (taken : takeFiles python sources bound edits lines = .ok result) :
    ∃ files more, lines = files.flatMap FileDiff.lines ∧ result = edits ++ more ∧
      List.Forall₂ (FileDiff.Applies sources) files more := by
  induction bound generalizing edits lines with
  | zero =>
    obtain rfl := List.length_eq_zero_iff.mp (Nat.le_zero.mp short)
    cases taken
    exact ⟨[], [], rfl, (List.append_nil _).symm, .nil⟩
  | succ bound ih =>
    cases lines with
    | nil =>
      cases taken
      exact ⟨[], [], rfl, (List.append_nil _).symm, .nil⟩
    | cons line lines =>
      obtain ⟨⟨edit, left⟩, first, others⟩ := bind_eq_ok.mp taken
      obtain ⟨file, cut, applies⟩ := takeFile_sound is_lines first
      rw [cut] at is_lines short ⊢
      have short' : left.length ≤ bound := by
        simp only [FileDiff.lines, FileDiff.headers, List.length_append, List.length_cons] at short
        omega
      obtain ⟨files, more, rfl, rfl, all⟩ :=
        ih (fun line mem => is_lines line (List.mem_append_right _ mem)) short' others
      exact ⟨file :: files, edit :: more, rfl, List.append_assoc _ _ _, .cons applies all⟩

theorem exactEdits_sound {diff : String} (taken : exactEdits python diff sources = .ok edits) :
    ∃ files, diff.toList = (files.flatMap FileDiff.lines).flatten ∧
      List.Forall₂ (FileDiff.Applies sources) files edits := by
  simp only [exactEdits, bind_eq_ok, orFail_eq_ok, require_eq_ok, pure_eq_ok] at taken
  obtain ⟨-, ⟨-, -, -, ended⟩, -, -, -, cut, found, taken, -, -, -, -, -, -, rfl⟩ := taken
  rw [cut] at taken
  obtain ⟨files, more, lines, rfl, applies⟩ :=
    takeFiles_sound (fun line mem => isLine_of_mem mem) (Nat.le_refl _) taken
  refine ⟨files, ?_, applies⟩
  rw [← lines, flatten_lines ended]

end Sound

end Reproof.Repair.UnifiedDiff

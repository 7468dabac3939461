import Mathlib.Data.List.Dedup
import Reproof.Repair.Edits.Sources

/-! What an accepted patch is: its replacements, at once and in any order. -/

namespace Reproof.Repair

open Library Contracts Execution.Wire

variable {python : Interpreter} {edits edits' : List Edit}

section WriteBack

variable {entries result : Dict String Bytes} {files : List (String × List (Replacement Char))}

/-- The text of the file at the path. -/
def textAt (entries : Dict String Bytes) (path : String) : Option (List Char) :=
  (entries.get? path).bind decodeText

structure WrittenBack (entries : Dict String Bytes)
    (files : List (String × List (Replacement Char))) (result : Dict String Bytes) : Prop where
  keys : result.keys = entries.keys
  written : ∀ path ranges, (path, ranges) ∈ files → ∀ text, textAt entries path = some text →
    result.get? path = some (encodeText (Replacement.spliceAll ranges text))
  kept : ∀ path, path ∉ files.map Prod.fst → result.get? path = entries.get? path

theorem writeBack_written (nodup : (files.map Prod.fst).Nodup)
    (written : writeBack entries files = .ok result) : WrittenBack entries files result := by
  induction files generalizing entries with
  | nil =>
    cases written
    exact ⟨rfl, by simp, fun _ _ => rfl⟩
  | cons file rest ih =>
    obtain ⟨path, ranges⟩ := file
    obtain ⟨fresh, nodup⟩ := List.nodup_cons.mp nodup
    simp only [writeBack, bind_eq_ok, orFail_eq_ok] at written
    obtain ⟨raw, found, text, decoded, written⟩ := written
    obtain ⟨keys, written, kept⟩ := ih nodup written
    constructor
    · rw [keys, Dict.keys_set, if_pos (Dict.mem_keys.mpr ⟨raw, found⟩)]
    · intro path' ranges' mem text' there
      rcases List.mem_cons.mp mem with same | later
      · cases same
        rw [textAt, found, Option.bind_some, decoded] at there
        cases there
        rw [kept path fresh, Dict.get?_set_self]
      · have other : path' ≠ path := fun same =>
          fresh (same ▸ (List.mem_map_of_mem later : path' ∈ rest.map Prod.fst))
        refine written path' ranges' later text' ?_
        rwa [textAt, Dict.get?_set, if_neg other]
    · intro path' absent
      rw [List.map_cons, List.mem_cons, not_or] at absent
      rw [kept path' absent.2, Dict.get?_set, if_neg absent.1]

theorem exists_writeBack (texts : ∀ path ∈ files.map Prod.fst, ∃ text, textAt entries path = some text) :
    ∃ result, writeBack entries files = .ok result := by
  induction files generalizing entries with
  | nil => exact ⟨entries, rfl⟩
  | cons file rest ih =>
    obtain ⟨path, ranges⟩ := file
    obtain ⟨⟨text, there⟩, others⟩ := List.forall_mem_cons.mp texts
    obtain ⟨raw, found, decoded⟩ := Option.bind_eq_some_iff.mp there
    obtain ⟨result, written⟩ :=
      @ih (entries.set path (encodeText (Replacement.spliceAll ranges text))) (by
        intro path' mem
        rw [textAt, Dict.get?_set]
        split
        · exact ⟨_, decodeText_encodeText⟩
        · exact others path' mem)
    exact ⟨result, by simp [writeBack, found, decoded, orFail, written, bind, Except.bind]⟩

end WriteBack

/-- The contents of blobs made of a dictionary are its own. -/
theorem contents_make {entries : Dict String Bytes} {blobs : BlobSet python}
    (made : BlobSet.make entries.entries = .ok blobs) : contents blobs = entries.get? := by
  have sorted : blobs.entries = entries.entries.insertionSort EntryLE := by
    unfold BlobSet.make at made
    split at made
    · cases made
      rfl
    · cases made
  funext path
  rw [contents, sorted, ← Dict.get?_ofList_perm entries.nodup (List.perm_insertionSort _ _).symm,
    Dict.get?_ofList_entries]

theorem make_of_sorted {entries : List (String × Bytes)} {blobs : BlobSet python}
    (sorted : entries.insertionSort EntryLE = blobs.entries) : BlobSet.make entries = .ok blobs := by
  have sealed := blobs.sealed
  obtain ⟨_, manifest, ordered, _⟩ := blobs
  subst sorted
  unfold BlobSet.make
  split
  · rename_i found
    cases found.symm.trans sealed
    rfl
  · rename_i failed
    cases failed.symm.trans sealed

namespace RepairSource

variable {source : RepairSource} {disk : Directories python} {frozen candidate : BlobSet python}
  {entries : Dict String Bytes}

theorem readEdit_reads : ReadsFrom (source.readEdit entries) (textAt entries) edits := by
  intro edit _ text read
  simp only [readEdit, bind_eq_ok, require_eq_ok, orFail_eq_ok, pure_eq_ok] at read
  obtain ⟨-, -, -, ⟨filled, -⟩, raw, found, _, decoded, -, -, rfl⟩ := read
  refine ⟨fun none => filled (String.toList_inj.mp none), ?_⟩
  rw [textAt, found]
  exact decoded

/-- What an accepted patch has done, and the checks that do not look at its edits one by one. -/
structure Applied (source : RepairSource) (disk : Directories python) (frozen : BlobSet python)
    (edits : List Edit) (candidate : BlobSet python) (replacements : Replacements)
    (entries : Dict String Bytes) : Prop where
  original : ∃ binding, source.frozen.get? frozen.manifest.digest = some binding ∧
    source.requireOriginal disk frozen binding.buildId = .ok ()
  few : 1 ≤ edits.length ∧ edits.length ≤ 64
  small : ∃ patch, canonical python (.list (edits.map Edit.document)) = some patch ∧
    patch.length ≤ 256 * 1024
  collected : collect (source.readEdit (Dict.ofList frozen.entries)) .empty edits = .ok replacements
  written : writeBack (Dict.ofList frozen.entries) replacements.entries = .ok entries
  made : BlobSet.make entries.entries = .ok candidate
  changed : candidate.manifest.digest ≠ frozen.manifest.digest
  kept : ∀ entry ∈ frozen.entries, entry.1 ∉ source.editablePaths →
    entries.get? entry.1 = some entry.2

theorem apply_eq_ok : source.apply disk frozen edits = .ok candidate ↔
    ∃ replacements entries, source.Applied disk frozen edits candidate replacements entries := by
  simp only [apply, bind_eq_ok, require_eq_ok, orFail_eq_ok, pure_eq_ok, mapError_eq_ok]
  constructor
  · rintro ⟨binding, bound, _, original, -, few, patch, canonical, -, small, replacements, collected,
      entries, written, _, made, -, changed, -, kept, rfl⟩
    exact ⟨replacements, entries, ⟨binding, bound, original⟩, few, ⟨patch, canonical, small⟩,
      collected, written, made, changed, kept⟩
  · rintro ⟨replacements, entries, ⟨binding, bound, original⟩, few, ⟨patch, canonical, small⟩,
      collected, written, made, changed, kept⟩
    exact ⟨binding, bound, (), original, (), few, patch, canonical, (), small, replacements,
      collected, entries, written, candidate, made, (), changed, (), kept, rfl⟩

variable {replacements : Replacements}

theorem Applied.collects (applied : source.Applied disk frozen edits candidate replacements entries) :
    Collected (source.readEdit (Dict.ofList frozen.entries)) (textAt (Dict.ofList frozen.entries))
      edits .empty replacements :=
  collect_collected readEdit_reads applied.collected

theorem replaced_of_written {original : Dict String Bytes} {read : Edit → Except String (List Char)}
    (reads : ReadsFrom read (textAt original) edits)
    (collected : Collected read (textAt original) edits .empty replacements)
    (written : WrittenBack original replacements.entries entries) :
    Replaced edits original.get? entries.get? := by
  refine collected.replaced reads (fun _ _ => rfl) (fun path text mem there => ?_) written.kept
  obtain ⟨⟨_, ranges⟩, listed, rfl⟩ := List.mem_map.mp mem
  rw [Replacements.ranges_of_mem listed]
  exact written.written _ ranges listed text there

theorem Applied.replaced (applied : source.Applied disk frozen edits candidate replacements entries) :
    Replaced edits (contents frozen) (contents candidate) := by
  rw [contents_make applied.made]
  exact replaced_of_written readEdit_reads applied.collects
    (writeBack_written replacements.nodup applied.written)

/-- A patch in another order makes the same candidate. -/
theorem Applied.perm (applied : source.Applied disk frozen edits candidate replacements entries)
    (perm : edits.Perm edits') :
    ∃ replacements', source.Applied disk frozen edits' candidate replacements' entries := by
  have collected := applied.collects
  obtain ⟨replacements', collects⟩ := collected.perm readEdit_reads perm
  have collected' := collect_collected readEdit_reads collects
  obtain ⟨entries', writes⟩ := @exists_writeBack (Dict.ofList frozen.entries) replacements'.entries
    fun path mem => (collected'.edited readEdit_reads mem).2
  have written := writeBack_written replacements.nodup applied.written
  have written' := writeBack_written replacements'.nodup writes
  have replaced := replaced_of_written readEdit_reads collected written
  have replaced' := replaced_of_written readEdit_reads collected' written'
  obtain rfl : entries = entries' := Dict.ext_get? (written.keys.trans written'.keys.symm)
    fun path => replaced.file replaced' perm rfl
  obtain ⟨patch, dumped, small⟩ := applied.small
  obtain ⟨patch', dumped', length⟩ := dumps_perm (perm.map Edit.document) dumped
  exact ⟨replacements', applied.original, perm.length_eq ▸ applied.few,
    ⟨patch', dumped', length ▸ small⟩, collects, writes, applied.made, applied.changed, applied.kept⟩

end RepairSource

namespace SnapshotRepairSource

section Changed

variable {entries changes result : Dict String Bytes}
  {files : List (String × List (Replacement Char))}

/-- What the loop over the files adds to the changes. -/
structure Changed (entries changes : Dict String Bytes)
    (files : List (String × List (Replacement Char))) (result : Dict String Bytes) : Prop where
  sized : ∀ path ranges, (path, ranges) ∈ files → ∃ text, textAt entries path = some text ∧
    (encodeText (Replacement.spliceAll ranges text)).length ≤ maxEditableFileBytes
  written : ∀ path ranges, (path, ranges) ∈ files → ∀ text, textAt entries path = some text →
    changes.get? path = none →
      (result.get? path).or (entries.get? path) = some (encodeText (Replacement.spliceAll ranges text))
  kept : ∀ path, path ∉ files.map Prod.fst → result.get? path = changes.get? path
  differs : ∀ path raw, result.get? path = some raw →
    changes.get? path = some raw ∨ path ∈ entries.keys ∧ entries.get? path ≠ some raw

theorem changed_changed (nodup : (files.map Prod.fst).Nodup)
    (changed : changed entries changes files = .ok result) : Changed entries changes files result := by
  induction files generalizing changes with
  | nil =>
    cases changed
    exact ⟨by simp, by simp, fun _ _ => rfl, fun _ _ => .inl⟩
  | cons file rest ih =>
    obtain ⟨path, ranges⟩ := file
    obtain ⟨fresh, nodup⟩ := List.nodup_cons.mp nodup
    simp only [SnapshotRepairSource.changed, bind_eq_ok, orFail_eq_ok, require_eq_ok] at changed
    obtain ⟨original, found, text, decoded, -, small, changed⟩ := changed
    obtain ⟨sized, written, kept, differs⟩ := ih nodup changed
    have here : textAt entries path = some text := by
      rw [textAt, found]
      exact decoded
    have other : ∀ path' ranges', (path', ranges') ∈ rest → path' ≠ path :=
      fun path' ranges' later same =>
        fresh (same ▸ (List.mem_map_of_mem later : path' ∈ rest.map Prod.fst))
    constructor
    · intro path' ranges' mem
      rcases List.mem_cons.mp mem with same | later
      · cases same
        exact ⟨text, here, small⟩
      · exact sized path' ranges' later
    · intro path' ranges' mem text' there new
      rcases List.mem_cons.mp mem with same | later
      · cases same
        cases here.symm.trans there
        rw [kept path fresh]
        split
        · rw [Dict.get?_set_self, Option.some_or]
        · rename_i same
          rw [new, Option.none_or, found, not_not.mp same]
      · refine written path' ranges' later text' there ?_
        split
        · rw [Dict.get?_set, if_neg (other path' ranges' later), new]
        · exact new
    · intro path' absent
      rw [List.map_cons, List.mem_cons, not_or] at absent
      rw [kept path' absent.2]
      split
      · rw [Dict.get?_set, if_neg absent.1]
      · rfl
    · intro path' raw there
      rcases differs path' raw there with before | differs
      · split at before
        · rename_i edited
          rcases Dict.get?_set_some before with ⟨rfl, rfl⟩ | ⟨-, before⟩
          · exact .inr ⟨Dict.mem_keys.mpr ⟨_, found⟩,
              fun same => edited (Option.some.inj (same.symm.trans found))⟩
          · exact .inl before
        · exact .inl before
      · exact .inr differs

theorem exists_changed
    (sized : ∀ path ranges, (path, ranges) ∈ files → ∃ text, textAt entries path = some text ∧
      (encodeText (Replacement.spliceAll ranges text)).length ≤ maxEditableFileBytes) :
    ∃ result, changed entries changes files = .ok result := by
  induction files generalizing changes with
  | nil => exact ⟨changes, rfl⟩
  | cons file rest ih =>
    obtain ⟨path, ranges⟩ := file
    obtain ⟨text, there, small⟩ := sized path ranges List.mem_cons_self
    obtain ⟨raw, found, decoded⟩ := Option.bind_eq_some_iff.mp there
    obtain ⟨result, changed⟩ := @ih
      (if encodeText (Replacement.spliceAll ranges text) ≠ raw then
        changes.set path (encodeText (Replacement.spliceAll ranges text)) else changes)
      fun path' ranges' later => sized path' ranges' (List.mem_cons_of_mem _ later)
    refine ⟨result, ?_⟩
    simp only [SnapshotRepairSource.changed, bind_eq_ok, orFail_eq_ok, require_eq_ok]
    exact ⟨raw, found, text, decoded, (), small, changed⟩

end Changed

section Applied

variable {source : SnapshotRepairSource} {disk : SnapshotDisk} {frozen : FrozenSnapshot}
  {candidate : SnapshotCandidate} {entries original changes changes' after after' : Dict String Bytes}
  {replacements replacements' : Replacements} {reference : Reference} {digest : String}

theorem readEdit_reads (filled : ∀ edit ∈ edits, edit.old ≠ "") :
    ReadsFrom (readEdit entries) (textAt entries) edits := by
  intro edit mem text read
  simp only [readEdit, bind_eq_ok, require_eq_ok, orFail_eq_ok, pure_eq_ok] at read
  obtain ⟨raw, found, _, decoded, -, -, rfl⟩ := read
  refine ⟨fun none => filled edit mem (String.toList_inj.mp none), ?_⟩
  rw [textAt, found]
  exact decoded

theorem freezeEdits_filled (frozen : freezeEdits python edits = .ok edits') :
    edits = edits' ∧ ∀ edit ∈ edits, edit.old ≠ "" := by
  simp only [freezeEdits, bind_eq_ok, require_eq_ok, orFail_eq_ok, pure_eq_ok, each_eq_ok] at frozen
  obtain ⟨-, -, -, checked, -, -, -, -, -, -, same⟩ := frozen
  refine ⟨same, fun edit mem => ?_⟩
  have check := checked edit mem
  simp only [checkEdit, bind_eq_ok, require_eq_ok] at check
  obtain ⟨-, -, -, ⟨filled, -⟩, -⟩ := check
  exact filled

theorem freezeEdits_perm (frozen : freezeEdits python edits = .ok edits) (perm : edits.Perm edits') :
    freezeEdits python edits' = .ok edits' := by
  simp only [freezeEdits, bind_eq_ok, require_eq_ok, orFail_eq_ok, pure_eq_ok, each_eq_ok] at frozen ⊢
  obtain ⟨-, few, -, checked, patch, dumped, -, small, -, paths, -⟩ := frozen
  obtain ⟨patch', dumped', length⟩ := dumps_perm (perm.map Edit.document) dumped
  exact ⟨(), perm.length_eq ▸ few, (), fun edit mem => checked edit (perm.mem_iff.mpr mem),
    patch', dumped', (), length ▸ small, (), (perm.map Edit.path).dedup.length_eq ▸ paths, trivial⟩

/-- What an accepted patch of a snapshot has done. -/
structure Applied (python : Interpreter) (source : SnapshotRepairSource) (disk : SnapshotDisk)
    (frozen : FrozenSnapshot) (edits : List Edit) (candidate : SnapshotCandidate)
    (replacements : Replacements) (entries changes original : Dict String Bytes)
    (reference : Reference) : Prop where
  owned : source.owned frozen = .ok ()
  accepted : freezeEdits python edits = .ok edits
  editable : ∀ edit ∈ edits, edit.path ∈ source.editablePaths
  selected : source.editableEntries python disk frozen = .ok entries
  collected : collect (readEdit entries) .empty edits = .ok replacements
  changed : changed entries .empty replacements.entries = .ok changes
  filled : changes.entries ≠ []
  bytes : totalBytes changes ≤ maxEditableBytes ∧
    totalBytes (entries.setAll changes.entries) ≤ maxEditableBytes
  unchanged : source.requireOriginal python disk frozen frozen.buildId = .ok ()
  found : inspectSnapshot python source.budgets disk.snapshot frozen.reference = .ok original
  derived : deriveSnapshot python source.budgets original disk.published changes =
    .ok (reference, candidate.files)
  kept : ((snapshotFiles python candidate.files).map FileEntry.path).Perm
      (frozen.files.map FileEntry.path) ∧
    ∀ file ∈ frozen.files, file.path ∉ changes.keys → file ∈ snapshotFiles python candidate.files
  measured : legacySourceDigest python (snapshotFiles python candidate.files) = .ok candidate.digest
  differs : candidate.digest ≠ frozen.digest
  referenced : candidate.reference = reference
  paths : candidate.changedPaths = changes.keys.insertionSort (· ≤ ·)

theorem apply_eq_ok : source.apply python disk frozen edits = .ok candidate ↔
    ∃ replacements entries changes original reference, source.Applied python disk frozen edits
      candidate replacements entries changes original reference := by
  simp only [apply, bind_eq_ok, require_eq_ok, pure_eq_ok, Prod.exists]
  constructor
  · rintro ⟨_, owned, edits', frozen, -, editable, entries, selected, replacements, collected, changes,
      changed, -, some, -, bytes, _, unchanged, original, found, reference, files, derived, -, kept,
      digest, measured, -, new, _, -, rfl⟩
    obtain ⟨rfl, -⟩ := freezeEdits_filled frozen
    exact ⟨replacements, entries, changes, original, reference, owned, frozen, editable, selected,
      collected, changed, some, bytes, unchanged, found, derived, kept, measured, new, rfl, rfl⟩
  · rintro ⟨replacements, entries, changes, original, reference, owned, frozen, editable, selected,
      collected, changed, some, bytes, unchanged, found, derived, kept, measured, new, same, paths⟩
    refine ⟨(), owned, edits, frozen, (), editable, entries, selected, replacements, collected, changes,
      changed, (), some, (), bytes, (), unchanged, original, found, reference, candidate.files, derived,
      (), kept, candidate.digest, measured, (), new, (), unchanged, ?_⟩
    rw [← same, ← paths]

theorem inspectSnapshot_found {budgets : SnapshotBudget} {found : Option (Dict String Bytes)}
    (inspected : inspectSnapshot python budgets found reference = .ok original) :
    found = some original := by
  simp only [inspectSnapshot, bind_eq_ok, orFail_eq_ok, pure_eq_ok] at inspected
  obtain ⟨_, there, _, -, -, -, rfl⟩ := inspected
  exact there

theorem deriveSnapshot_files {budgets : SnapshotBudget} {published : Bool}
    (derived : deriveSnapshot python budgets original published changes = .ok (reference, after)) :
    after = original.setAll changes.entries := by
  simp only [deriveSnapshot, bind_eq_ok, pure_eq_ok] at derived
  obtain ⟨-, -, -, -, -, -, _, -, -, -, same⟩ := derived
  exact (Prod.mk.inj same).2.symm

theorem editableEntries_selected (selected : source.editableEntries python disk frozen = .ok entries)
    (found : disk.snapshot = some original) :
    entries = original.filterKeys (· ∈ source.editablePaths) := by
  simp only [editableEntries, bind_eq_ok, pure_eq_ok] at selected
  obtain ⟨-, -, -, -, -, -, files, inspected, -, -, -, -, -, -, rfl⟩ := selected
  cases found.symm.trans (inspectSnapshot_found inspected)
  rfl

theorem Changed.replaced (changed : Changed entries .empty replacements.entries changes)
    (reads : ReadsFrom (readEdit entries) (textAt entries) edits)
    (collected : Collected (readEdit entries) (textAt entries) edits .empty replacements)
    (agree : ∀ path, (∃ edit ∈ edits, edit.path = path) → entries.get? path = original.get? path) :
    Replaced edits original.get? (original.setAll changes.entries).get? := by
  refine collected.replaced reads ?_ ?_ ?_
  · intro edit mem
    rw [textAt, agree edit.path ⟨edit, mem, rfl⟩]
  · intro path text mem there
    obtain ⟨⟨_, ranges⟩, listed, rfl⟩ := List.mem_map.mp mem
    rw [Replacements.ranges_of_mem listed, Dict.get?_setAll_entries,
      ← agree _ (collected.edited reads mem).1]
    exact changed.written _ ranges listed text there rfl
  · intro path free
    rw [Dict.get?_setAll_entries, changed.kept path free, Dict.get?_empty, Option.none_or]

section Changes

variable (applied : source.Applied python disk frozen edits candidate replacements entries changes
  original reference)
include applied

theorem Applied.reads : ReadsFrom (readEdit entries) (textAt entries) edits :=
  readEdit_reads (freezeEdits_filled applied.accepted).2

theorem Applied.collects :
    Collected (readEdit entries) (textAt entries) edits .empty replacements :=
  collect_collected applied.reads applied.collected

theorem Applied.changing : Changed entries .empty replacements.entries changes :=
  changed_changed replacements.nodup applied.changed

theorem Applied.get?_entries {path : String} (edited : ∃ edit ∈ edits, edit.path = path) :
    entries.get? path = original.get? path := by
  obtain ⟨edit, mem, rfl⟩ := edited
  rw [editableEntries_selected applied.selected (inspectSnapshot_found applied.found),
    Dict.get?_filterKeys, if_pos (applied.editable edit mem)]

theorem Applied.replaced : Replaced edits original.get? candidate.files.get? := by
  rw [deriveSnapshot_files applied.derived]
  exact applied.changing.replaced applied.reads applied.collects fun path => applied.get?_entries

end Changes

/-- Changes of the same entries that make the same files are the same. -/
theorem Changed.get?_eq {files files' : List (String × List (Replacement Char))} {path : String}
    (changed : Changed entries .empty files changes) (changed' : Changed entries .empty files' changes')
    (same : (changes.get? path).or (entries.get? path) = (changes'.get? path).or (entries.get? path)) :
    changes.get? path = changes'.get? path := by
  have differs : ∀ {files : List (String × List (Replacement Char))} {changes : Dict String Bytes},
      Changed entries .empty files changes → ∀ raw, changes.get? path = some raw →
        some raw ≠ entries.get? path := fun changed raw there same => by
    rcases changed.differs path raw there with none | ⟨-, other⟩
    · cases none
    · exact other same.symm
  cases here : changes.get? path with
  | none =>
    cases there : changes'.get? path with
    | none => rfl
    | some raw =>
      rw [here, there] at same
      exact absurd same.symm (differs changed' raw there)
  | some raw =>
    cases there : changes'.get? path with
    | none =>
      rw [here, there] at same
      exact absurd same (differs changed raw here)
    | some raw' =>
      rw [here, there] at same
      exact same

theorem totalBytes_congr (same : ∀ path, changes.get? path = changes'.get? path) :
    totalBytes changes = totalBytes changes' :=
  (((Dict.entries_perm same).map Prod.snd).map List.length).sum_eq

theorem deriveSnapshot_congr {budgets : SnapshotBudget} {published : Bool}
    (same : ∀ path, changes.get? path = changes'.get? path)
    (known : ∀ path ∈ changes.keys, path ∈ original.keys) :
    deriveSnapshot python budgets original published changes =
      deriveSnapshot python budgets original published changes' := by
  have perm := Dict.entries_perm same
  have values : changes.values.Perm changes'.values := perm.map Prod.snd
  simp only [deriveSnapshot, perm.length_eq, totalBytes_congr same, Dict.setAll_congr same known,
    values.mem_iff]

/-- A patch in another order makes the same candidate. -/
theorem Applied.perm (applied : source.Applied python disk frozen edits candidate replacements entries
    changes original reference) (perm : edits.Perm edits') :
    ∃ replacements' changes', source.Applied python disk frozen edits' candidate replacements' entries
      changes' original reference := by
  have collected := applied.collects
  have reads' := applied.reads.perm perm
  obtain ⟨replacements', collects⟩ := collected.perm applied.reads perm
  have collected' := collect_collected reads' collects
  obtain ⟨changes', changed⟩ := @exists_changed entries .empty replacements'.entries
    fun path ranges' mem => by
      have edited := collected'.edited reads' (List.mem_map_of_mem mem)
      obtain ⟨⟨edit, listed, same⟩, text, there⟩ := edited
      have known : path ∈ replacements.keys :=
        (collected.keys path).mpr (.inr ⟨edit, perm.mem_iff.mpr listed, same⟩)
      obtain ⟨⟨_, ranges⟩, here, rfl⟩ := List.mem_map.mp known
      obtain ⟨text', own, small⟩ := applied.changing.sized _ ranges here
      cases there.symm.trans own
      have spliced := collected.spliceAll_perm applied.reads reads' collected' perm there
      rw [Replacements.ranges_of_mem here, Replacements.ranges_of_mem mem] at spliced
      exact ⟨text, there, spliced ▸ small⟩
  have changing := applied.changing
  have changing' := changed_changed replacements'.nodup changed
  have same : ∀ path, changes.get? path = changes'.get? path := fun path => by
    have replaced := changing.replaced applied.reads collected fun _ _ => rfl
    have replaced' := changing'.replaced reads' collected' fun _ _ => rfl
    have file : (entries.setAll changes.entries).get? path =
        (entries.setAll changes'.entries).get? path := replaced.file replaced' perm rfl
    rw [Dict.get?_setAll_entries, Dict.get?_setAll_entries] at file
    exact changing.get?_eq changing' file
  have known : ∀ path ∈ changes.keys, path ∈ entries.keys := fun path mem => by
    obtain ⟨raw, there⟩ := Dict.mem_keys.mp mem
    exact ((changing.differs path raw there).resolve_left nofun).1
  have known' : ∀ path ∈ changes.keys, path ∈ original.keys := fun path mem => by
    have kept := known path mem
    rw [editableEntries_selected applied.selected (inspectSnapshot_found applied.found),
      Dict.keys_filterKeys] at kept
    exact (List.mem_filter.mp kept).1
  have perm' := Dict.entries_perm same
  have keys : changes.keys.Perm changes'.keys := perm'.map Prod.fst
  have filled : changes'.entries ≠ [] := fun none => applied.filled (none ▸ perm').eq_nil
  have bytes := applied.bytes
  rw [totalBytes_congr same, Dict.setAll_congr same known] at bytes
  have paths := applied.paths
  rw [((List.perm_insertionSort _ _).trans (keys.trans (List.perm_insertionSort _ _).symm)).eq_of_pairwise'
    (List.pairwise_insertionSort _ _) (List.pairwise_insertionSort _ _)] at paths
  refine ⟨replacements', changes', applied.owned, freezeEdits_perm applied.accepted perm,
    fun edit mem => applied.editable edit (perm.mem_iff.mpr mem), applied.selected, collects, changed,
    filled, bytes, applied.unchanged, applied.found, ?_, ?_, applied.measured, applied.differs,
    applied.referenced, paths⟩
  · exact deriveSnapshot_congr same known' ▸ applied.derived
  · exact ⟨applied.kept.1, fun file mem free => applied.kept.2 file mem (keys.mem_iff.not.mpr free)⟩

end Applied

end SnapshotRepairSource

/-- Exact unique replacements: of old texts that stand at one position each, all at once, in any
order and in no other file. -/
structure Exact {γ : Type} (apply : List Edit → Except String γ) (before : Contents)
    (after : γ → Contents) (edits : List Edit) (candidate : γ) : Prop where
  unique : Unique edits before
  replaced : Replaced edits before (after candidate)
  ordered : ∀ edits', edits.Perm edits' → apply edits' = .ok candidate

theorem RepairSource.exact_iff {source : RepairSource} {disk : Directories python}
    {frozen candidate : BlobSet python} (accepted : source.apply disk frozen edits = .ok candidate) :
    Exact (source.apply disk frozen) (contents frozen) contents edits candidate ↔
      ¬ Ambiguous edits (contents frozen) := by
  obtain ⟨replacements, entries, applied⟩ := RepairSource.apply_eq_ok.mp accepted
  have unique := applied.collects.unique_iff RepairSource.readEdit_reads fun _ _ => rfl
  constructor
  · exact fun exact => unique.mp exact.unique
  · refine fun clear => ⟨unique.mpr clear, applied.replaced, fun edits' perm => ?_⟩
    obtain ⟨replacements', applied'⟩ := applied.perm perm
    exact RepairSource.apply_eq_ok.mpr ⟨replacements', entries, applied'⟩

theorem SnapshotRepairSource.exact_iff {source : SnapshotRepairSource} {disk : SnapshotDisk}
    {frozen : FrozenSnapshot} {candidate : SnapshotCandidate} {files : Dict String Bytes}
    (accepted : source.apply python disk frozen edits = .ok candidate)
    (found : disk.snapshot = some files) :
    Exact (source.apply python disk frozen) files.get? (fun made => made.files.get?) edits candidate ↔
      ¬ Ambiguous edits files.get? := by
  obtain ⟨replacements, entries, changes, original, reference, applied⟩ :=
    SnapshotRepairSource.apply_eq_ok.mp accepted
  cases found.symm.trans (SnapshotRepairSource.inspectSnapshot_found applied.found)
  have unique := applied.collects.unique_iff applied.reads fun edit mem => by
    rw [textAt, applied.get?_entries ⟨edit, mem, rfl⟩]
  constructor
  · exact fun exact => unique.mp exact.unique
  · refine fun clear => ⟨unique.mpr clear, applied.replaced, fun edits' perm => ?_⟩
    obtain ⟨replacements', changes', applied'⟩ := applied.perm perm
    exact SnapshotRepairSource.apply_eq_ok.mpr
      ⟨replacements', entries, changes', files, reference, applied'⟩

/-- The patches that a source accepts are exact where no old text overlaps itself, and both sources
make the same of a file. -/
theorem patches_exact_iff (source : RepairSource) (disk : Directories python) (frozen : BlobSet python)
    (snapshots : SnapshotRepairSource) (disk' : SnapshotDisk) (snapshot : FrozenSnapshot)
    (edits : List Edit) :
    (∀ candidate, source.apply disk frozen edits = .ok candidate →
      (Exact (source.apply disk frozen) (contents frozen) contents edits candidate ↔
        ¬ Ambiguous edits (contents frozen))) ∧
    (∀ candidate, snapshots.apply python disk' snapshot edits = .ok candidate →
      ∃ files, disk'.snapshot = some files ∧
        (Exact (snapshots.apply python disk' snapshot) files.get? (fun made => made.files.get?) edits
            candidate ↔ ¬ Ambiguous edits files.get?)) ∧
    ∀ candidate candidate' files, source.apply disk frozen edits = .ok candidate →
      snapshots.apply python disk' snapshot edits = .ok candidate' → disk'.snapshot = some files →
        ∀ path, contents frozen path = files.get? path →
          contents candidate path = candidate'.files.get? path := by
  refine ⟨fun candidate accepted => RepairSource.exact_iff accepted, fun candidate accepted => ?_, ?_⟩
  · obtain ⟨_, _, _, files, _, applied⟩ := SnapshotRepairSource.apply_eq_ok.mp accepted
    have found := SnapshotRepairSource.inspectSnapshot_found applied.found
    exact ⟨files, found, SnapshotRepairSource.exact_iff accepted found⟩
  · intro candidate candidate' files accepted accepted' found path same
    obtain ⟨_, _, applied⟩ := RepairSource.apply_eq_ok.mp accepted
    obtain ⟨_, _, _, original, _, applied'⟩ := SnapshotRepairSource.apply_eq_ok.mp accepted'
    cases found.symm.trans (SnapshotRepairSource.inspectSnapshot_found applied'.found)
    exact applied.replaced.file applied'.replaced (.refl edits) same

/-- The digests of the files and the manifests of one patch. -/
def tripled : Interpreter where
  lower := id
  casefold := id
  nfc := id
  float := String.ofList
  depth := 8
  sha256 raw :=
    if raw = utf8 "aaa" then "9834876dcfb05cb167a5c24953eba58c4ac89b1adf57f28f2f9d09af107ee8f0"
    else if raw = utf8 "ba" then "970f519c2cadbcefb1e81694f904bc6229dd2a8300e98c6d0d4fc4bfca584140"
    else if raw = utf8 "hi" then "8f434346648f6b96df89dda901c5176b10a6d83961dd3c1ac88b59b2dc327aa4"
    else if raw = utf8 "[\x7b\"digest\":\"9834876dcfb05cb167a5c24953eba58c4ac89b1adf57f28f2f9d09af107ee8f0\",\"path\":\"a.txt\",\"size\":3\x7d]" then
      "ad6e3259d0abb3e0b7ba8f38cd050a9b31d93bd581c0d6d387d77ce989fa8c44"
    else if raw = utf8 "[\x7b\"digest\":\"970f519c2cadbcefb1e81694f904bc6229dd2a8300e98c6d0d4fc4bfca584140\",\"path\":\"a.txt\",\"size\":2\x7d]" then
      "ae0b74b3652d5ed75e1bb254f16a993b38c6afa4c868783068ef89ac6ce36aec"
    else "ae508c723c217575d4751cf06cee12274c60f0f5075078eccf982643269dee82"
  hmac _ _ := ""

def tripledManifest : Manifest where
  digest := "ad6e3259d0abb3e0b7ba8f38cd050a9b31d93bd581c0d6d387d77ce989fa8c44"
  files := [⟨"a.txt", "9834876dcfb05cb167a5c24953eba58c4ac89b1adf57f28f2f9d09af107ee8f0", 3⟩]

def patchedManifest : Manifest where
  digest := "ae0b74b3652d5ed75e1bb254f16a993b38c6afa4c868783068ef89ac6ce36aec"
  files := [⟨"a.txt", "970f519c2cadbcefb1e81694f904bc6229dd2a8300e98c6d0d4fc4bfca584140", 2⟩]

def artifactManifest : Manifest where
  digest := "ae508c723c217575d4751cf06cee12274c60f0f5075078eccf982643269dee82"
  files := [⟨"a.apk", "8f434346648f6b96df89dda901c5176b10a6d83961dd3c1ac88b59b2dc327aa4", 2⟩]

theorem tripled_sealed : (sealEntries tripled [("a.txt", utf8 "aaa")]).toOption = some tripledManifest ∧
    (sealEntries tripled [("a.txt", utf8 "ba")]).toOption = some patchedManifest ∧
    (sealEntries tripled [("a.apk", utf8 "hi")]).toOption = some artifactManifest := by
  simp only [sealEntries, canonical, digest, dumps_eq, Json.write_eq]
  decide +kernel

def tripledBlobs : BlobSet tripled where
  entries := [("a.txt", utf8 "aaa")]
  manifest := tripledManifest
  ordered := List.pairwise_singleton _ _
  sealed := toOption_eq_some.mp tripled_sealed.1

def patchedBlobs : BlobSet tripled where
  entries := [("a.txt", utf8 "ba")]
  manifest := patchedManifest
  ordered := List.pairwise_singleton _ _
  sealed := toOption_eq_some.mp tripled_sealed.2.1

def tripledDisk : Directories tripled where
  sources := some tripledBlobs
  artifacts := some {
    entries := [("a.apk", utf8 "hi")]
    manifest := artifactManifest
    ordered := List.pairwise_singleton _ _
    sealed := toOption_eq_some.mp tripled_sealed.2.2 }

def tripledBinding : Binding := ⟨"build", artifactManifest.digest, "policy"⟩

def tripledSource : RepairSource where
  builds := [⟨"build", some tripledManifest.digest,
    "8f434346648f6b96df89dda901c5176b10a6d83961dd3c1ac88b59b2dc327aa4", "android"⟩]
  editablePaths := ["a.txt"]
  artifactIdentity := .fileSha256
  policyDigest := "policy"
  frozen := Dict.empty.set tripledManifest.digest tripledBinding

theorem decodeText_utf8 (text : String) : decodeText (utf8 text) = some text.toList := by
  conv_lhs => rw [← String.ofList_toList (s := text)]
  exact decodeText_encodeText

theorem tripled_applied {edit : Edit} (path : edit.path = "a.txt")
    (valid : edit.old ≠ "" ∧ edit.old ≠ edit.new ∧ '\x00' ∉ (edit.old ++ edit.new).toList ∧
      (utf8 edit.old).length ≤ 128 * 1024 ∧ (utf8 edit.new).length ≤ 128 * 1024)
    (small : ∃ patch, canonical tripled (.list [edit.document]) = some patch ∧
      patch.length ≤ 256 * 1024)
    (once : count edit.old.toList ['a', 'a', 'a'] = 1)
    (spliced : Replacement.spliceAll [edit.range ['a', 'a', 'a']] ['a', 'a', 'a'] = ['b', 'a']) :
    tripledSource.apply tripledDisk tripledBlobs [edit] = .ok patchedBlobs := by
  obtain ⟨patch, dumped, small⟩ := small
  have stored : (Dict.ofList tripledBlobs.entries).get? edit.path = some (utf8 "aaa") := path ▸ rfl
  have decoded : decodeText (utf8 "aaa") = some ['a', 'a', 'a'] := decodeText_utf8 "aaa"
  have written : encodeText ['b', 'a'] = utf8 "ba" := rfl
  have read : tripledSource.readEdit (Dict.ofList tripledBlobs.entries) edit = .ok ['a', 'a', 'a'] := by
    simp only [RepairSource.readEdit, bind_eq_ok, require_eq_ok, orFail_eq_ok, pure_eq_ok]
    exact ⟨(), by rw [path]; decide, (), valid, _, stored, _, decoded, (), by decide, rfl⟩
  have anchored : anchor ['a', 'a', 'a'] [] edit = .ok (edit.range ['a', 'a', 'a']) :=
    (anchor_eq_ok fun none => valid.1 (String.toList_inj.mp none)).mpr ⟨once, rfl, by simp⟩
  refine RepairSource.apply_eq_ok.mpr ⟨Dict.empty.set edit.path [edit.range ['a', 'a', 'a']],
    (Dict.ofList tripledBlobs.entries).set edit.path (utf8 "ba"), ?_⟩
  constructor
  · exact ⟨tripledBinding, rfl, toOption_eq_some.mp (by decide +kernel)⟩
  · exact ⟨Nat.le_refl 1, Nat.le_add_left 1 63⟩
  · exact ⟨patch, dumped, small⟩
  · simp only [collect, bind_eq_ok]
    exact ⟨_, read, _, anchored, rfl⟩
  · change writeBack _ [(edit.path, [edit.range ['a', 'a', 'a']])] = _
    simp only [writeBack, bind_eq_ok, orFail_eq_ok]
    exact ⟨_, stored, _, decoded, by rw [spliced, written]; rfl⟩
  · rw [path]
    exact make_of_sorted (by decide +kernel)
  · decide
  · intro entry mem kept
    cases List.mem_singleton.mp mem
    exact absurd (List.mem_singleton_self "a.txt") kept

/-- The old text stands at two places that share a character, and is counted once. -/
theorem overlapping_accepted :
    tripledSource.apply tripledDisk tripledBlobs [⟨"a.txt", "aa", "b"⟩] = .ok patchedBlobs ∧
      ¬ Unique [⟨"a.txt", "aa", "b"⟩] (contents tripledBlobs) := by
  refine ⟨tripled_applied rfl (by decide) ⟨_, rfl, by decide⟩ (by decide) (by decide), fun unique => ?_⟩
  have decoded : (contents tripledBlobs "a.txt").bind decodeText = some ['a', 'a', 'a'] :=
    decodeText_utf8 "aaa"
  obtain ⟨i, -, only⟩ := unique _ (List.mem_singleton_self _) _ decoded
  have first : 0 = i := only 0 (by unfold OccursAt; decide)
  have second : 1 = i := only 1 (by unfold OccursAt; decide)
  omega

def tripledReference : Reference :=
  ⟨"ae508c723c217575d4751cf06cee12274c60f0f5075078eccf982643269dee82", 1, 3⟩

def tripledFrozen : FrozenSnapshot where
  digest := tripledManifest.digest
  reference := tripledReference
  buildId := "build"
  projectDigest := "project"
  policyDigest := "policy"
  artifactDigest := "8f434346648f6b96df89dda901c5176b10a6d83961dd3c1ac88b59b2dc327aa4"
  artifactBytes := 2
  files := tripledManifest.files

def tripledSnapshots : SnapshotRepairSource where
  builds := tripledSource.builds
  editablePaths := ["a.txt"]
  protectedPaths := []
  projectDigest := "project"
  policyDigest := "policy"
  reference := tripledReference
  budgets := ⟨1024, maxEditableBytes, maxEditableBytes, maxEditableBytes⟩
  frozen := Dict.empty.set "build" tripledFrozen

def tripledFiles : Dict String Bytes := Dict.empty.set "a.txt" (utf8 "aaa")

def tripledShot : SnapshotDisk := ⟨some tripledFiles, some (utf8 "hi"), true⟩

def patchedSnapshot : SnapshotCandidate where
  digest := patchedManifest.digest
  reference := ⟨"ae508c723c217575d4751cf06cee12274c60f0f5075078eccf982643269dee82", 1, 2⟩
  changedPaths := ["a.txt"]
  files := tripledFiles.set "a.txt" (utf8 "ba")

/-- The references of the files before the patch and after it, and the digests their build and the candidate have. -/
theorem tripled_measured :
    (snapshotSummary tripled tripledSnapshots.budgets tripledFiles).toOption = some tripledReference ∧
      (snapshotSummary tripled tripledSnapshots.budgets patchedSnapshot.files).toOption =
        some patchedSnapshot.reference ∧
      (legacySourceDigest tripled (snapshotFiles tripled tripledFiles)).toOption = some tripledFrozen.digest ∧
      (legacySourceDigest tripled (snapshotFiles tripled patchedSnapshot.files)).toOption =
        some patchedSnapshot.digest := by
  simp only [snapshotSummary, snapshotDigest, legacySourceDigest, digest, dumps_eq, Json.write_eq]
  decide +kernel

theorem tripled_inspected : inspectSnapshot tripled tripledSnapshots.budgets tripledShot.snapshot
    tripledReference = .ok tripledFiles := by
  simp only [inspectSnapshot, bind_eq_ok, require_eq_ok, orFail_eq_ok, pure_eq_ok]
  exact ⟨_, rfl, _, toOption_eq_some.mp tripled_measured.1, (), rfl, rfl⟩

theorem tripled_original :
    tripledSnapshots.requireOriginal tripled tripledShot tripledFrozen "build" = .ok () := by
  have kept : tripledSnapshots.frozen.get? "build" = some tripledFrozen := rfl
  have frozen : tripledSnapshots.freeze tripled tripledShot "build" = .ok (tripledFrozen, tripledSnapshots) := by
    simp only [SnapshotRepairSource.freeze, SnapshotRepairSource.inspect, bind_eq_ok, require_eq_ok, orFail_eq_ok,
      pure_eq_ok, kept]
    exact ⟨_, rfl, _, rfl, (), rfl, _, ⟨_, tripled_inspected, (), by decide, (), by decide, rfl⟩, _,
      toOption_eq_some.mp tripled_measured.2.2.1, _, rfl, (), ⟨rfl, by decide +kernel⟩, (), by decide +kernel, (),
      by decide +kernel, trivial⟩
  simp only [SnapshotRepairSource.requireOriginal, SnapshotRepairSource.owned, bind_eq_ok, require_eq_ok,
    mapError_eq_ok, frozen]
  exact ⟨(), ⟨kept, rfl, rfl⟩, (), rfl, _, rfl, rfl⟩

theorem tripled_snapshot : tripledSnapshots.apply tripled tripledShot tripledFrozen
    [⟨"a.txt", "aaa", "ba"⟩] = .ok patchedSnapshot := by
  have decoded : decodeText (utf8 "aaa") = some ['a', 'a', 'a'] := decodeText_utf8 "aaa"
  refine SnapshotRepairSource.apply_eq_ok.mpr ⟨Dict.empty.set "a.txt" [⟨0, 3, ['b', 'a']⟩],
    tripledFiles, Dict.empty.set "a.txt" (utf8 "ba"), tripledFiles, patchedSnapshot.reference, ?_⟩
  constructor
  · exact require_eq_ok.mpr ⟨rfl, rfl, rfl⟩
  · simp only [freezeEdits, canonical, dumps_eq, Json.write_eq]
    exact toOption_eq_some.mp (by decide +kernel)
  · decide
  · simp only [SnapshotRepairSource.editableEntries, SnapshotRepairSource.owned, bind_eq_ok, require_eq_ok, pure_eq_ok]
    exact ⟨(), ⟨rfl, rfl, rfl⟩, (), tripled_original, (), by decide, _, tripled_inspected, (), by decide,
      (), by decide, (), by decide, rfl⟩
  · simp only [collect, bind_eq_ok]
    refine ⟨['a', 'a', 'a'], ?_, ⟨0, 3, ['b', 'a']⟩, rfl, rfl⟩
    simp only [SnapshotRepairSource.readEdit, bind_eq_ok, require_eq_ok, orFail_eq_ok, pure_eq_ok]
    exact ⟨_, rfl, _, decoded, (), by decide, rfl⟩
  · change SnapshotRepairSource.changed _ _ [("a.txt", [⟨0, 3, ['b', 'a']⟩])] = _
    simp only [SnapshotRepairSource.changed, bind_eq_ok, require_eq_ok, orFail_eq_ok]
    exact ⟨_, rfl, _, decoded, (), by decide, rfl⟩
  · decide
  · decide
  · exact tripled_original
  · exact tripled_inspected
  · simp only [deriveSnapshot, bind_eq_ok, require_eq_ok, pure_eq_ok]
    exact ⟨(), by decide, (), by decide, (), by decide, _, toOption_eq_some.mp tripled_measured.2.1, (), rfl, rfl⟩
  · decide +kernel
  · exact toOption_eq_some.mp tripled_measured.2.2.2
  · decide
  · rfl
  · rfl

/-- A patch of the whole text is exact, and both sources make it. -/
theorem patches_exact_iff_whole :
    Exact (tripledSource.apply tripledDisk tripledBlobs) (contents tripledBlobs) contents
        [⟨"a.txt", "aaa", "ba"⟩] patchedBlobs ∧
      Exact (tripledSnapshots.apply tripled tripledShot tripledFrozen) tripledFiles.get?
        (fun made => made.files.get?) [⟨"a.txt", "aaa", "ba"⟩] patchedSnapshot ∧
      contents patchedBlobs "a.txt" = patchedSnapshot.files.get? "a.txt" := by
  have accepted : tripledSource.apply tripledDisk tripledBlobs [⟨"a.txt", "aaa", "ba"⟩] =
      .ok patchedBlobs :=
    tripled_applied rfl (by decide) ⟨_, rfl, by decide⟩ (by decide) (by decide)
  have decoded : decodeText (utf8 "aaa") = some ['a', 'a', 'a'] := decodeText_utf8 "aaa"
  have clear : ∀ before : Contents, before "a.txt" = some (utf8 "aaa") →
      ¬ Ambiguous [⟨"a.txt", "aaa", "ba"⟩] before := by
    rintro before stored ⟨edit, mem, text, there, overlaps⟩
    cases List.mem_singleton.mp mem
    rw [stored, Option.bind_some, decoded] at there
    cases there
    obtain ⟨i, j, -, second, before, within⟩ := overlaps
    have bound := second.bound (by decide)
    change i < j at before
    change j + 3 ≤ 3 at bound
    omega
  obtain ⟨first, second, third⟩ := patches_exact_iff tripledSource tripledDisk tripledBlobs
    tripledSnapshots tripledShot tripledFrozen [⟨"a.txt", "aaa", "ba"⟩]
  obtain ⟨files, found, exact⟩ := second _ tripled_snapshot
  cases found
  exact ⟨(first _ accepted).mpr (clear _ rfl), exact.mpr (clear _ rfl),
    third _ _ _ accepted tripled_snapshot rfl "a.txt" rfl⟩

end Reproof.Repair

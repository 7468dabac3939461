import Reproof.Live.Frames.Lifetime

/-! What the spool keeps in every view that its directory can have: each file belongs to a row of the journal, and
the file of an active frame is there, whole and written out. -/

namespace Reproof.Live.Frames

open Contracts Library

/-- The file of an active frame. -/
structure Whole (python : Interpreter) (row : Row) (view : Disk.View FileName UInt8) : Prop where
  there : ∃ body, view.get? row.framePath = some ⟨body, true⟩ ∧ body.length = row.size ∧
    python.sha256 body = row.digest

/-- Whether a row accounts for a file. -/
def Row.Owns (row : Row) (name : FileName) (file : Disk.File UInt8) : Prop :=
  file.bytes.length ≤ row.size ∧ (name = row.tempPath ∨ name = row.framePath ∧ file.stable = true)

structure Fits (python : Interpreter) (frames : Table Row) (view : Disk.View FileName UInt8) : Prop where
  owned : ∀ name file, view.get? name = some file → ∃ row ∈ frames, row.Owns name file
  alone : ∀ row ∈ frames, view.get? row.tempPath = none ∨ view.get? row.framePath = none
  whole : ∀ row ∈ frames, row.state = .active → Whole python row view

structure Sound (python : Interpreter) (spool : Spool) : Prop where
  known : ∀ row ∈ spool.frames, row.frameSequence ≤ spool.recording.watermark ∧
    row.acquisitionSequence ≤ spool.recording.acquisitionWatermark
  bounded : ∀ values ∈ spool.spoolMeta, spool.frames.rows.length ≤ values.maxFrames ∧ spool.bytes ≤ values.maxBytes
  blank : spool.spoolMeta = none → spool.frames.rows = []
  fits : spool.disk.Always (Fits python spool.frames)

/-- What is left of `s` in `t`, when only the frames of `marks` have been marked in between. -/
structure Evolves (marks : List Int) (s t : Spool) : Prop where
  watermark : s.recording.watermark ≤ t.recording.watermark ∧
    s.recording.acquisitionWatermark ≤ t.recording.acquisitionWatermark
  bounds : ∀ values ∈ s.spoolMeta, ∃ later ∈ t.spoolMeta,
    later.maxFrames = values.maxFrames ∧ later.maxBytes = values.maxBytes ∧
      (values.cleanupPending = true → later.cleanupPending = true)
  fresh : ∀ row ∈ t.frames,
    (∃ old ∈ s.frames, old.frameSequence = row.frameSequence ∧ old.acquisitionSequence = row.acquisitionSequence) ∨
      s.recording.watermark < row.frameSequence ∧ s.recording.acquisitionWatermark < row.acquisitionSequence
  kept : ∀ row ∈ s.frames, row.state = .active → row.frameSequence ∉ marks → row ∈ t.frames ∧
    ∀ view ∈ t.disk.views, ∃ past ∈ s.disk.views, view.get? row.framePath = past.get? row.framePath

section Relations

variable {python : Interpreter} {marks : List Int} {s t u : Spool}

theorem Evolves.refl : Evolves marks s s where
  watermark := ⟨le_rfl, le_rfl⟩
  bounds values mem := ⟨values, mem, rfl, rfl, id⟩
  fresh row mem := .inl ⟨row, mem, rfl, rfl⟩
  kept _ mem _ _ := ⟨mem, fun view mem => ⟨view, mem, rfl⟩⟩

theorem Evolves.trans (h : Evolves marks s t) (h' : Evolves marks t u) : Evolves marks s u where
  watermark := ⟨h.watermark.1.trans h'.watermark.1, h.watermark.2.trans h'.watermark.2⟩
  bounds values mem := by
    obtain ⟨later, mem, frames, bytes, pending⟩ := h.bounds values mem
    obtain ⟨last, mem, frames', bytes', pending'⟩ := h'.bounds later mem
    exact ⟨last, mem, frames'.trans frames, bytes'.trans bytes, fun h => pending' (pending h)⟩
  fresh row mem := by
    rcases h'.fresh row mem with ⟨old, mem, same, same'⟩ | above
    · rcases h.fresh old mem with ⟨first, mem, first_same, first_same'⟩ | above
      · exact .inl ⟨first, mem, first_same.trans same, first_same'.trans same'⟩
      · rw [same, same'] at above
        exact .inr above
    · exact .inr ⟨h.watermark.1.trans_lt above.1, h.watermark.2.trans_lt above.2⟩
  kept row mem active unmarked := by
    obtain ⟨mem, back⟩ := h.kept row mem active unmarked
    obtain ⟨mem, back'⟩ := h'.kept row mem active unmarked
    refine ⟨mem, ?_⟩
    intro view viewed
    obtain ⟨past, viewed, same⟩ := back' view viewed
    obtain ⟨first, viewed, same'⟩ := back past viewed
    exact ⟨first, viewed, same.trans same'⟩

/-- More frames may have been marked. -/
theorem Evolves.mono {more : List Int} (h : Evolves marks s t) (sub : marks ⊆ more) : Evolves more s t :=
  { h with kept := fun row mem active unmarked => h.kept row mem active fun mem => unmarked (sub mem) }

def Keeps (python : Interpreter) (marks : List Int) (s t : Spool) : Prop :=
  Sound python s → Sound python t ∧ Evolves marks s t

instance : Std.Refl (Keeps python marks) := ⟨fun _ sound => ⟨sound, .refl⟩⟩

instance : IsTrans Spool (Keeps python marks) where
  trans _ _ _ h h' := by
    intro sound
    obtain ⟨sound, evolves⟩ := h sound
    obtain ⟨sound, evolves'⟩ := h' sound
    exact ⟨sound, evolves.trans evolves'⟩

/-- The journal and the frame files are the same. -/
structure Same (s t : Spool) : Prop where
  spoolMeta : t.spoolMeta = s.spoolMeta
  recording : t.recording = s.recording
  frames : t.frames = s.frames
  disk : t.disk = s.disk

instance : Std.Refl Same := ⟨fun _ => ⟨rfl, rfl, rfl, rfl⟩⟩

instance : IsTrans Spool Same where
  trans _ _ _ h h' := ⟨h'.1.trans h.1, h'.2.trans h.2, h'.3.trans h.3, h'.4.trans h.4⟩

theorem Same.keeps (marks : List Int) (h : Same s t) : Keeps python marks s t := by
  obtain ⟨created, spoolMeta, recording, frames, disk, budget⟩ := t
  obtain ⟨rfl, rfl, rfl, rfl⟩ := h
  intro sound
  exact ⟨⟨sound.1, sound.2, sound.3, sound.4⟩, ⟨le_rfl, le_rfl⟩, fun values mem => ⟨values, mem, rfl, rfl, id⟩,
    fun row mem => .inl ⟨row, mem, rfl, rfl⟩, fun row mem _ _ => ⟨mem, fun view mem => ⟨view, mem, rfl⟩⟩⟩

end Relations

section Changes

variable {python : Interpreter} {marks : List Int} {s t : Spool} {row : Row}

theorem framePath_inj {a b : Row} : a.framePath = b.framePath ↔ a.frameSequence = b.frameSequence := by
  simp [Row.framePath]

theorem eq_of_sequence {a b : Row} {frames : Table Row} (ha : a ∈ frames) (hb : b ∈ frames)
    (same : a.frameSequence = b.frameSequence) : a = b := Table.eq_of_clash ha hb same

/-- Files of one row may have gone, and no other file has changed. -/
def Clears (row : Row) (s t : Spool) : Prop :=
  ∃ disk, t = { s with disk } ∧ (∀ name, s.disk.view.get? name = none → disk.view.get? name = none) ∧
    ∀ view ∈ disk.views, ∃ past ∈ s.disk.views, ∀ name,
      view.get? name = past.get? name ∨ view.get? name = none ∧ (name = row.tempPath ∨ name = row.framePath)

instance : Std.Refl (Clears row) :=
  ⟨fun s => ⟨s.disk, rfl, fun _ absent => absent, fun view mem => ⟨view, mem, fun _ => .inl rfl⟩⟩⟩

instance : IsTrans Spool (Clears row) where
  trans s t u h h' := by
    obtain ⟨disk, rfl, absent, back⟩ := h
    obtain ⟨disk', rfl, absent', back'⟩ := h'
    refine ⟨disk', rfl, fun name none => absent' name (absent name none), ?_⟩
    intro view mem
    obtain ⟨past, mem, same⟩ := back' view mem
    obtain ⟨first, mem, same'⟩ := back past mem
    refine ⟨first, mem, fun name => ?_⟩
    rcases same name with same | gone
    · rw [same]
      exact same' name
    · exact .inr gone

/-- No frame that is active has the sequence of the row, and no other row has it. -/
def Known (row : Row) (spool : Spool) : Prop :=
  row.state ≠ .active ∧ ∀ other ∈ spool.frames, other.frameSequence = row.frameSequence → other = row

theorem known_of_mem {spool : Spool} (mem : row ∈ spool.frames) (idle : row.state ≠ .active) : Known row spool :=
  ⟨idle, fun _ other same => eq_of_sequence other mem same⟩

/-- The files of a row may be as far as `_write_file` can have come. -/
def Partial (row : Row) (view : Disk.View FileName UInt8) : Prop :=
  (∀ file, view.get? row.tempPath = some file → file.bytes.length ≤ row.size) ∧
  (∀ file, view.get? row.framePath = some file → file.bytes.length ≤ row.size ∧ file.stable = true) ∧
  (view.get? row.tempPath = none ∨ view.get? row.framePath = none)

/-- Only the files of one row have changed. -/
def Touches (row : Row) (s t : Spool) : Prop :=
  ∃ disk, t = { s with disk } ∧ ∀ view ∈ disk.views, Partial row view ∧ ∃ past ∈ s.disk.views, ∀ name,
    name ≠ row.tempPath → name ≠ row.framePath → view.get? name = past.get? name

theorem tempPath_ne {a b : Row} : a.tempPath ≠ b.framePath := by simp [Row.framePath, Row.tempPath]

theorem Clears.trans_touches {u : Spool} (h : Touches row s t) (h' : Clears row t u) : Touches row s u := by
  obtain ⟨disk, rfl, back⟩ := h
  obtain ⟨disk', rfl, -, back'⟩ := h'
  refine ⟨disk', rfl, ?_⟩
  intro view mem
  obtain ⟨past, mem, same⟩ := back' view mem
  obtain ⟨⟨small, ready, apart⟩, first, mem, outside⟩ := back past mem
  have sub : ∀ name file, view.get? name = some file → past.get? name = some file := by
    intro name file found
    rcases same name with same | gone
    · rw [← same]
      exact found
    · rw [gone.1] at found
      cases found
  refine ⟨⟨fun file found => small file (sub _ _ found), fun file found => ready file (sub _ _ found), ?_⟩,
    first, mem, ?_⟩
  · have shrinks : ∀ name, past.get? name = none → view.get? name = none := by
      intro name absent
      rcases same name with same | gone
      · rw [same, absent]
      · exact gone.1
    exact apart.imp (shrinks _) (shrinks _)
  · intro name temp frame
    rcases same name with same | gone
    · rw [same]
      exact outside name temp frame
    · rcases gone.2 with rfl | rfl
      · exact absurd rfl temp
      · exact absurd rfl frame

/-- A change of the files of a row that is not active. -/
theorem Touches.keeps (marks : List Int) (h : Touches row s t) (mem : row ∈ s.frames) (idle : row.state ≠ .active) :
    Keeps python marks s t := by
  obtain ⟨disk, rfl, back⟩ := h
  intro sound
  have others : ∀ other ∈ s.frames, other ≠ row → other.tempPath ≠ row.tempPath ∧
      other.framePath ≠ row.framePath := by
    intro other listed different
    have sequences : other.frameSequence ≠ row.frameSequence := fun same =>
      different (eq_of_sequence listed mem same)
    exact ⟨by simp [Row.tempPath, sequences], by simp [Row.framePath, sequences]⟩
  have active : ∀ other ∈ s.frames, other.state = .active → other ≠ row := by
    rintro other listed active rfl
    exact idle active
  refine ⟨⟨sound.known, sound.bounded, sound.blank, ?_⟩, ⟨le_rfl, le_rfl⟩,
    fun values mem => ⟨values, mem, rfl, rfl, id⟩, fun other listed => .inl ⟨other, listed, rfl, rfl⟩, ?_⟩
  · intro view viewed
    obtain ⟨⟨small, ready, apart⟩, past, viewed, outside⟩ := back view viewed
    have fits := sound.fits past viewed
    refine ⟨?_, ?_, ?_⟩
    · intro name file found
      by_cases temp : name = row.tempPath
      · subst temp
        exact ⟨row, mem, small file found, .inl rfl⟩
      · by_cases frame : name = row.framePath
        · subst frame
          exact ⟨row, mem, (ready file found).1, .inr ⟨rfl, (ready file found).2⟩⟩
        · rw [outside name temp frame] at found
          exact fits.owned name file found
    · intro other listed
      by_cases same : other = row
      · rw [same]
        exact apart
      · obtain ⟨temp, frame⟩ := others other listed same
        rw [outside _ temp tempPath_ne, outside _ tempPath_ne.symm frame]
        exact fits.alone other listed
    · intro other listed state
      obtain ⟨temp, frame⟩ := others other listed (active other listed state)
      obtain ⟨body, found, whole⟩ := (fits.whole other listed state).there
      refine ⟨body, ?_, whole⟩
      rw [outside _ tempPath_ne.symm frame]
      exact found
  · intro other listed state _
    refine ⟨listed, ?_⟩
    intro view viewed
    obtain ⟨-, past, viewed, outside⟩ := back view viewed
    exact ⟨past, viewed, outside _ tempPath_ne.symm (others other listed (active other listed state)).2⟩

theorem Clears.keeps (marks : List Int) (h : Clears row s t) (known : Known row s) : Keeps python marks s t := by
  obtain ⟨disk, rfl, -, back⟩ := h
  intro sound
  have same : ∀ other ∈ s.frames, other.state = .active → ∀ view past : Disk.View FileName UInt8,
      (∀ name, view.get? name = past.get? name ∨
        view.get? name = none ∧ (name = row.tempPath ∨ name = row.framePath)) →
      view.get? other.framePath = past.get? other.framePath := by
    intro other listed active view past same
    rcases same other.framePath with same | ⟨-, temp | frame⟩
    · exact same
    · exact absurd temp.symm tempPath_ne
    · rw [known.2 other listed (framePath_inj.mp frame)] at active
      exact absurd active known.1
  refine ⟨⟨sound.known, sound.bounded, sound.blank, ?_⟩, ⟨le_rfl, le_rfl⟩,
    fun values mem => ⟨values, mem, rfl, rfl, id⟩, fun other listed => .inl ⟨other, listed, rfl, rfl⟩, ?_⟩
  · intro view viewed
    obtain ⟨past, viewed, names⟩ := back view viewed
    have fits := sound.fits past viewed
    refine ⟨?_, ?_, ?_⟩
    · intro name file found
      rcases names name with same | gone
      · rw [same] at found
        exact fits.owned name file found
      · rw [gone.1] at found
        cases found
    · intro other listed
      have shrinks : ∀ name, past.get? name = none → view.get? name = none := by
        intro name absent
        rcases names name with same | gone
        · rw [same, absent]
        · exact gone.1
      exact (fits.alone other listed).imp (shrinks _) (shrinks _)
    · intro other listed active
      obtain ⟨body, found, whole⟩ := (fits.whole other listed active).there
      refine ⟨body, ?_, whole⟩
      rw [same other listed active view past names]
      exact found
  · intro other listed active _
    refine ⟨listed, ?_⟩
    intro view viewed
    obtain ⟨past, viewed, names⟩ := back view viewed
    exact ⟨past, viewed, same other listed active view past names⟩

/-- The files of a row are gone, whatever comes back. -/
def Gone (row : Row) (spool : Spool) : Prop :=
  spool.disk.Always fun view => view.get? row.tempPath = none ∧ view.get? row.framePath = none

/-- Rows may be deleted whose files are gone. -/
theorem Sound.delete (marks : List Int) {p : Row → Prop} [DecidablePred p] (released : Int) (sound : Sound python s)
    (gone : ∀ row ∈ s.frames, p row → row.state ≠ .active ∧ Gone row s) :
    Sound python { s with
      frames := s.frames.delete p
      recording := { s.recording with releasedCount := released } } ∧
    Evolves marks s { s with
      frames := s.frames.delete p
      recording := { s.recording with releasedCount := released } } := by
  have sub : ∀ row ∈ s.frames.delete p, row ∈ s.frames ∧ ¬ p row := fun row mem => Table.mem_delete.mp mem
  refine ⟨⟨fun row mem => sound.known row (sub row mem).1, ?_, ?_, ?_⟩, ⟨le_rfl, le_rfl⟩,
    fun values mem => ⟨values, mem, rfl, rfl, id⟩, fun row mem => .inl ⟨row, (sub row mem).1, rfl, rfl⟩, ?_⟩
  · intro values mem
    obtain ⟨few, light⟩ := sound.bounded values mem
    exact ⟨(List.length_filter_le _ _).trans few, (List.Sublist.sum_le_sum
      (List.Sublist.map _ List.filter_sublist) fun _ _ => Nat.zero_le _).trans light⟩
  · intro absent
    change s.frames.rows.filter _ = []
    rw [sound.blank absent]
    rfl
  · intro view viewed
    have fits := sound.fits view viewed
    refine ⟨?_, fun row mem => fits.alone row (sub row mem).1, fun row mem => fits.whole row (sub row mem).1⟩
    intro name file found
    obtain ⟨row, mem, owns⟩ := fits.owned name file found
    refine ⟨row, Table.mem_delete.mpr ⟨mem, ?_⟩, owns⟩
    intro deleted
    obtain ⟨temp, frame⟩ := (gone row mem deleted).2 view viewed
    rcases owns.2 with rfl | ⟨rfl, -⟩
    · rw [temp] at found
      cases found
    · rw [frame] at found
      cases found
  · intro row mem active _
    refine ⟨Table.mem_delete.mpr ⟨mem, fun deleted => (gone row mem deleted).1 active⟩, ?_⟩
    exact fun view viewed => ⟨view, viewed, rfl⟩

/-- Rows may change their states, when one that becomes active has its file. -/
theorem Sound.update {p : Row → Prop} [DecidablePred p] {f : Row → Row} {frames : Table Row} (sound : Sound python s)
    (updated : s.frames.update? p f = some frames)
    (same : ∀ row, ∃ state proof, f row = { row with state, proof })
    (active : ∀ row ∈ s.frames, p row → (f row).state = .active → s.disk.Always (Whole python row))
    (marked : ∀ row ∈ s.frames, p row → row.state = .active → row.frameSequence ∈ marks) :
    Sound python { s with frames } ∧ Evolves marks s { s with frames } := by
  have rows := Table.rows_of_update? updated
  have source : ∀ row ∈ frames, ∃ old ∈ s.frames, row = if p old then f old else old := by
    intro row mem
    rw [← Table.mem_rows, rows, List.mem_map] at mem
    obtain ⟨old, mem, eq⟩ := mem
    exact ⟨old, mem, eq.symm⟩
  have target : ∀ row ∈ s.frames, (if p row then f row else row) ∈ frames := by
    intro row mem
    rw [← Table.mem_rows, rows]
    exact List.mem_map_of_mem mem
  have shape : ∀ old : Row, ∃ state proof, (if p old then f old else old) = { old with state, proof } := by
    intro old
    split
    · exact same old
    · exact ⟨old.state, old.proof, rfl⟩
  refine ⟨⟨?_, ?_, ?_, ?_⟩, ⟨le_rfl, le_rfl⟩, fun values mem => ⟨values, mem, rfl, rfl, id⟩, ?_, ?_⟩
  · intro row mem
    obtain ⟨old, listed, rfl⟩ := source row mem
    obtain ⟨state, proof, eq⟩ := shape old
    rw [eq]
    exact sound.known old listed
  · intro values mem
    obtain ⟨few, light⟩ := sound.bounded values mem
    have sizes : frames.rows.map (·.size) = s.frames.rows.map (·.size) := by
      rw [rows, List.map_map]
      apply List.map_congr_left
      intro old _
      obtain ⟨state, proof, eq⟩ := shape old
      simp only [Function.comp_apply, eq]
    refine ⟨?_, ?_⟩
    · change frames.rows.length ≤ _
      rw [rows, List.length_map]
      exact few
    · change (frames.rows.map (·.size)).sum ≤ _
      rw [sizes]
      exact light
  · intro absent
    change frames.rows = []
    rw [rows, sound.blank absent]
    rfl
  · intro view viewed
    have fits := sound.fits view viewed
    refine ⟨?_, ?_, ?_⟩
    · intro name file found
      obtain ⟨old, listed, owns⟩ := fits.owned name file found
      refine ⟨_, target old listed, ?_⟩
      obtain ⟨state, proof, eq⟩ := shape old
      rw [eq]
      exact owns
    · intro row mem
      obtain ⟨old, listed, rfl⟩ := source row mem
      obtain ⟨state, proof, eq⟩ := shape old
      rw [eq]
      exact fits.alone old listed
    · intro row mem
      obtain ⟨old, listed, rfl⟩ := source row mem
      by_cases h : p old
      · obtain ⟨state, proof, eq⟩ := same old
        intro becomes
        rw [if_pos h] at becomes ⊢
        have whole := active old listed h becomes view viewed
        rw [eq]
        exact ⟨whole.there⟩
      · rw [if_neg h]
        exact fits.whole old listed
  · intro row mem
    obtain ⟨old, listed, rfl⟩ := source row mem
    obtain ⟨state, proof, eq⟩ := shape old
    rw [eq]
    exact .inl ⟨old, listed, rfl, rfl⟩
  · intro row mem state unmarked
    have missed : ¬ p row := fun h => unmarked (marked row mem h state)
    have stays := target row mem
    rw [if_neg missed] at stays
    exact ⟨stays, fun view viewed => ⟨view, viewed, rfl⟩⟩

/-- A row of a later frame than all before finds no files of its own. -/
theorem Sound.gone (sound : Sound python s) (above : s.recording.watermark < row.frameSequence) : Gone row s := by
  have absent : ∀ view ∈ s.disk.views, ∀ name, name = row.tempPath ∨ name = row.framePath →
      view.get? name = none := by
    intro view viewed name named
    cases found : view.get? name with
    | none => rfl
    | some file =>
      obtain ⟨owner, mem, -, owns⟩ := (sound.fits view viewed).owned name file found
      have below := (sound.known owner mem).1
      have same : owner.frameSequence = row.frameSequence := by
        rcases named with rfl | rfl <;> rcases owns with named | ⟨named, -⟩ <;>
          simp_all [Row.tempPath, Row.framePath]
      omega
  exact fun view viewed => ⟨absent view viewed _ (.inl rfl), absent view viewed _ (.inr rfl)⟩

/-- A new row, with the watermarks that go with it. -/
theorem Sound.insert (marks : List Int) {frames : Table Row} (accepted : Int) (sound : Sound python s)
    (inserted : s.frames.insert? row = some frames) (idle : row.state ≠ .active)
    (above : s.recording.watermark < row.frameSequence ∧ s.recording.acquisitionWatermark < row.acquisitionSequence)
    (opened : s.spoolMeta ≠ none)
    (room : ∀ values ∈ s.spoolMeta, s.frames.rows.length < values.maxFrames ∧ s.bytes + row.size ≤ values.maxBytes) :
    Sound python { s with
      frames
      recording := { s.recording with
        watermark := max s.recording.watermark row.frameSequence
        acquisitionWatermark := max s.recording.acquisitionWatermark row.acquisitionSequence
        acceptedCount := accepted } } ∧
    Evolves marks s { s with
      frames
      recording := { s.recording with
        watermark := max s.recording.watermark row.frameSequence
        acquisitionWatermark := max s.recording.acquisitionWatermark row.acquisitionSequence
        acceptedCount := accepted } } := by
  have rows := Table.rows_of_insert? inserted
  have members : ∀ other, other ∈ frames ↔ other ∈ s.frames ∨ other = row := fun other => Table.mem_insert? inserted
  have gone := sound.gone above.1
  refine ⟨⟨?_, ?_, fun absent => absurd absent opened, ?_⟩, ⟨le_max_left _ _, le_max_left _ _⟩,
    fun values mem => ⟨values, mem, rfl, rfl, id⟩, ?_, ?_⟩
  · intro other mem
    rcases (members other).mp mem with mem | rfl
    · obtain ⟨frame, acquisition⟩ := sound.known other mem
      exact ⟨frame.trans (le_max_left _ _), acquisition.trans (le_max_left _ _)⟩
    · exact ⟨le_max_right _ _, le_max_right _ _⟩
  · intro values mem
    obtain ⟨few, light⟩ := room values mem
    refine ⟨?_, ?_⟩
    · change frames.rows.length ≤ _
      rw [rows, List.length_append, List.length_singleton]
      exact few
    · change (frames.rows.map (·.size)).sum ≤ _
      rw [rows, List.map_append, List.sum_append]
      simpa [Spool.bytes] using light
  · intro view viewed
    have fits := sound.fits view viewed
    refine ⟨?_, ?_, ?_⟩
    · intro name file found
      obtain ⟨owner, mem, owns⟩ := fits.owned name file found
      exact ⟨owner, (members owner).mpr (.inl mem), owns⟩
    · intro other mem
      rcases (members other).mp mem with mem | rfl
      · exact fits.alone other mem
      · exact .inl (gone view viewed).1
    · intro other mem active
      rcases (members other).mp mem with mem | rfl
      · exact fits.whole other mem active
      · exact absurd active idle
  · intro other mem
    rcases (members other).mp mem with mem | rfl
    · exact .inl ⟨other, mem, rfl, rfl⟩
    · exact .inr above
  · intro other mem active _
    exact ⟨(members other).mpr (.inl mem), fun view viewed => ⟨view, viewed, rfl⟩⟩

end Changes

end Reproof.Live.Frames

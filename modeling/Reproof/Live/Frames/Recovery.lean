import Reproof.Live.Frames.Keeping

/-! Releasing and recovering: a frame goes when it is being staged, or after a proof of it was committed. -/

namespace Reproof.Live.Frames

open Contracts Library

variable {python : Interpreter} {marks : List Int} {s t : Spool} {row : Row} {self : FrameSpool}

section Releasing

theorem keeps_sync (marks : List Int) : Keeps python marks t { t with disk := t.disk.sync } := fun sound =>
  ⟨⟨sound.known, sound.bounded, sound.blank, Disk.Always.sync sound.fits⟩, ⟨le_rfl, le_rfl⟩,
    fun values mem => ⟨values, mem, rfl, rfl, id⟩, fun row mem => .inl ⟨row, mem, rfl, rfl⟩, by
      intro row mem _ _
      refine ⟨mem, ?_⟩
      intro view viewed
      rw [List.mem_singleton.mp viewed]
      exact ⟨t.disk.view, List.mem_cons_self, rfl⟩⟩

/-- `markReleasable` takes frames from the active ones, and these are its tokens'. -/
theorem kept_markReleasable {values : List SpoolToken} (sub : values.map (·.frameSequence) ⊆ marks) :
    Kept python marks (self.markReleasable python values) := by
  refine Prog.Guarantees.bind reads_writable.guarantees fun _ => ?_
  refine Prog.Guarantees.bind reads_tokens.guarantees fun _ => ?_
  refine Prog.Guarantees.bind reads_proofForTokens.guarantees fun found => ?_
  refine Prog.Guarantees.bind reads_call.guarantees fun _ => ?_
  intro s
  rw [Prog.wp_bind, Prog.wp_read, Prog.wp_bind, Prog.wp_ofExcept]
  refine ⟨?_, fun _ _ => refl_of _ s⟩
  intro frames updated
  have kept : Keeps python marks s { s with frames } := fun sound =>
    sound.update (orFail_eq_ok.mp updated) (fun _ => ⟨.releasable, some found, rfl⟩)
      (fun _ _ _ active => by cases active) fun _ _ h _ => sub h.1
  rw [Prog.wp_bind]
  exact wp_transaction kept (refl_of _ s) ⟨refl_of _ s, kept⟩

/-- `releaseRows` of rows that are not those of active frames. -/
theorem wp_releaseRows (marks : List Int) {rows : List Row} (sound : Sound python s)
    (known : ∀ row ∈ rows, Known row s) :
    (FrameSpool.releaseRows rows).wp
      (fun _ t => (Sound python t ∧ Evolves marks s t) ∧ ∀ other ∈ t.frames, other ∈ s.frames)
      (fun _ t => (Sound python t ∧ Evolves marks s t) ∧ ∀ other ∈ t.frames, other ∈ s.frames)
      (fun t => (Sound python t ∧ Evolves marks s t) ∧ ∀ other ∈ t.frames, other ∈ s.frames) s := by
  have whole : ∀ t, (Sound python t ∧ Evolves marks s t) ∧ t.frames = s.frames →
      (Sound python t ∧ Evolves marks s t) ∧ ∀ other ∈ t.frames, other ∈ s.frames :=
    fun t h => ⟨h.1, fun other mem => h.2 ▸ mem⟩
  unfold FrameSpool.releaseRows
  rw [Prog.wp_bind, Prog.wp_rescue]
  have unlinked := wp_unlinkRows (s := s) rows []
    (K := fun t => (Sound python t ∧ Evolves marks s t) ∧ t.frames = s.frames)
    (by
      rintro row mem t u ⟨⟨sound, evolves⟩, frames⟩ cleared
      have idle : Known row t := by
        unfold Known
        rw [frames]
        exact known row mem
      obtain ⟨sound, evolves'⟩ := cleared.keeps marks idle sound
      exact ⟨⟨sound, evolves.trans evolves'⟩, cleared.frames.trans frames⟩)
    (by
      rintro t ⟨⟨sound, evolves⟩, frames⟩
      obtain ⟨sound, evolves'⟩ := keeps_sync marks sound
      exact ⟨⟨sound, evolves.trans evolves'⟩, frames⟩)
    ⟨⟨sound, .refl⟩, rfl⟩ (by simp)
  refine Prog.wp_mono unlinked ?_ (fun _ t h => whole t h) fun t h => whole t h
  rintro _ t ⟨⟨⟨sound, evolves⟩, frames⟩, gone⟩
  rw [Prog.wp_bind, Prog.wp_rescue, Prog.wp_bind]
  have same := whole t ⟨⟨sound, evolves⟩, frames⟩
  refine wp_call (fun _ => ?_) same same
  rw [Prog.wp_bind, Prog.wp_read, Prog.wp_bind]
  refine wp_check (fun _ => ?_) same
  have kept := sound.delete marks (t.recording.releasedCount + rows.length)
    (p := fun row => row.frameSequence ∈ rows.map (·.frameSequence) ∧ row.state = .releasable) (by
      rintro other mem ⟨listed, -⟩
      obtain ⟨row, listed, sequence⟩ := List.mem_map.mp listed
      rw [(known row listed).2 other (frames ▸ mem) sequence.symm]
      exact ⟨(known row listed).1, gone row listed⟩)
  have rest : ∀ other ∈ t.frames.delete fun row =>
      row.frameSequence ∈ rows.map (·.frameSequence) ∧ row.state = .releasable, other ∈ s.frames :=
    fun other mem => same.2 other (Table.mem_delete.mp mem).1
  exact wp_transaction ⟨⟨kept.1, evolves.trans kept.2⟩, rest⟩ same ⟨same, ⟨kept.1, evolves.trans kept.2⟩, rest⟩

theorem known_of_state {rows : List Row} {P : Row → Prop}
    (all : ∀ row ∈ rows, row ∈ s.frames ∧ row.state = .releasable ∧ P row) : ∀ row ∈ rows, Known row s := by
  intro row mem
  obtain ⟨listed, state, -⟩ := all row mem
  exact known_of_mem listed (by simp [state])

theorem kept_releaseTokens {values : List SpoolToken} : Kept python marks (do
    let rows ← self.rowsForTokens .releasable values
    FrameSpool.releaseRows rows) := by
  intro s
  rw [Prog.wp_bind]
  refine Prog.wp_mono wp_rowsForTokens ?_ ?_ ?_
  · rintro rows t ⟨rfl, all⟩
    have after := fun sound : Sound python t =>
      wp_releaseRows marks sound (known_of_state all)
    by_cases sound : Sound python t
    · exact Prog.wp_mono (after sound) (fun _ _ h _ => h.1) (fun _ _ h _ => h.1) fun _ h _ => h.1
    · exact Prog.wp_mono (Prog.returns_any _ t) (fun _ _ _ h => absurd h sound) (fun _ _ _ h => absurd h sound)
        fun _ _ h => absurd h sound
  · rintro e t rfl
    exact refl_of _ t
  · rintro t rfl
    exact refl_of _ t

theorem kept_release {values : List SpoolToken} (sub : values.map (·.frameSequence) ⊆ marks) :
    Kept python marks (self.release python values) :=
  Prog.Guarantees.bind reads_tokens.guarantees fun _ => Prog.Guarantees.bind (kept_markReleasable sub) fun _ =>
    Prog.Guarantees.bind reads_tokens.guarantees fun _ => kept_releaseTokens

end Releasing

section Recovering

/-- A row of a frame that is being staged goes with its files, or it stays as it is. -/
theorem wp_deleteStagingRow (sound : Sound python s) (known : Known row s) : (deleteStagingRow row).wp
    (fun _ t => (Sound python t ∧ Evolves marks s t) ∧
      ∀ other : Row, other.frameSequence ≠ row.frameSequence → (other ∈ t.frames ↔ other ∈ s.frames))
    (fun _ _ => False) (fun t => Sound python t ∧ Evolves marks s t) s := by
  unfold deleteStagingRow
  rw [Prog.wp_bind]
  refine Prog.wp_mono wp_cleanupRowFiles ?_ (fun _ _ h => h) fun t h => h.keeps marks known sound
  rintro clean t ⟨h, gone⟩
  obtain ⟨sound, evolves⟩ := h.keeps marks known sound
  have frames := h.frames
  cases clean with
  | false => exact ⟨⟨sound, evolves⟩, fun other _ => by rw [frames]⟩
  | true =>
    rw [if_pos rfl, Prog.wp_rescue, Prog.wp_bind]
    have same : Known row t := by
      unfold Known
      rw [frames]
      exact known
    refine Prog.wp_mono (wp_deleteStaging marks sound same (gone rfl)) ?_ ?_ ?_
    · rintro _ u ⟨sound, evolves', others⟩
      refine ⟨⟨sound, evolves.trans evolves'⟩, ?_⟩
      intro other different
      rw [others other different, frames]
    · rintro _ u rfl
      exact ⟨⟨sound, evolves⟩, fun other _ => by rw [frames]⟩
    · rintro u ⟨sound, evolves'⟩
      exact ⟨sound, evolves.trans evolves'⟩

/-- A frame whose file is there becomes active after its directory has been written out. -/
theorem wp_activate {body : Bytes} {stable : Bool} (sound : Sound python s) (mem : row ∈ s.frames)
    (staging : row.state = .staging) (found : s.disk.view.get? row.framePath = some ⟨body, stable⟩)
    (size : body.length = row.size) (digest : python.sha256 body = row.digest) :
    (do
      unlinkFile row.tempPath
      fsyncDirectory
      markActive row.frameSequence : Control Unit).wp
    (fun _ t => (Sound python t ∧ Evolves marks s t) ∧
      ∀ other : Row, other.frameSequence ≠ row.frameSequence → (other ∈ t.frames ↔ other ∈ s.frames))
    (fun _ t => (Sound python t ∧ Evolves marks s t) ∧
      ∀ other : Row, other.frameSequence ≠ row.frameSequence → (other ∈ t.frames ↔ other ∈ s.frames))
    (fun t => Sound python t ∧ Evolves marks s t) s := by
  have known := known_of_mem mem (by simp [staging])
  have cleared : ∀ t, Clears row s t → (Sound python t ∧ Evolves marks s t) ∧
      ∀ other : Row, other.frameSequence ≠ row.frameSequence → (other ∈ t.frames ↔ other ∈ s.frames) :=
    fun t h => ⟨h.keeps marks known sound, fun other _ => by rw [h.frames]⟩
  have finish : ∀ t, Clears row s t → t.disk.view.get? row.framePath = some ⟨body, stable⟩ →
      (do
        fsyncDirectory
        markActive row.frameSequence : Control Unit).wp
      (fun _ u => (Sound python u ∧ Evolves marks s u) ∧
        ∀ other : Row, other.frameSequence ≠ row.frameSequence → (other ∈ u.frames ↔ other ∈ s.frames))
      (fun _ u => (Sound python u ∧ Evolves marks s u) ∧
        ∀ other : Row, other.frameSequence ≠ row.frameSequence → (other ∈ u.frames ↔ other ∈ s.frames))
      (fun u => Sound python u ∧ Evolves marks s u) t := by
    intro t h there
    have synced : Clears row s { t with disk := t.disk.sync } := trans_of _ h clears_sync
    rw [Prog.wp_bind]
    refine wp_fsyncDirectory ⟨cleared t h, (cleared t h).1⟩ ⟨cleared _ synced, (cleared _ synced).1, ?_⟩
    obtain ⟨⟨sound, evolves⟩, others⟩ := cleared _ synced
    -- a file under its own name has been written out before it got that name
    have written : stable = true := by
      obtain ⟨owner, -, -, temp | frame⟩ := sound.fits.view.owned _ _ there
      · exact absurd temp.symm tempPath_ne
      · exact frame.2
    rw [written] at there
    have landed : Landed row body { t with disk := t.disk.sync } := Disk.always_sync.mpr there
    have listed : row ∈ ({ t with disk := t.disk.sync } : Spool).frames := by
      change row ∈ t.frames
      rw [h.frames]
      exact mem
    refine Prog.wp_mono (wp_markActive marks sound listed staging landed size digest) ?_ ?_ ?_
    · rintro _ u ⟨sound, evolves', -, after⟩
      refine ⟨⟨sound, evolves.trans evolves'⟩, ?_⟩
      intro other different
      exact (after other different).trans (others other different)
    · rintro _ u rfl
      exact cleared _ synced
    · rintro u ⟨sound, evolves'⟩
      exact ⟨sound, evolves.trans evolves'⟩
  have start := cleared s (refl_of _ s)
  have unlinked := cleared _ (clears_unlink (s := s) (.inl rfl))
  have still : ({ s with disk := s.disk.unlink row.tempPath } : Spool).disk.view.get? row.framePath =
      some ⟨body, stable⟩ := by
    change (s.disk.view.erase row.tempPath).get? row.framePath = _
    rw [Dict.get?_erase, if_neg tempPath_ne.symm]
    exact found
  rw [Prog.wp_bind]
  exact wp_unlinkFile ⟨start, start.1, fun _ => finish s (refl_of _ s) found⟩
    ⟨unlinked, unlinked.1, finish _ (clears_unlink (.inl rfl)) still⟩

/-- One row is recovered: it becomes active with its file, it goes with its files, or it stays as it is. -/
theorem wp_recoverStaging (marks : List Int) (sound : Sound python s) (mem : row ∈ s.frames)
    (staging : row.state = .staging) :
    (FrameSpool.recoverStaging python row).wp
      (fun _ t => (Sound python t ∧ Evolves marks s t) ∧
        ∀ other : Row, other.frameSequence ≠ row.frameSequence → (other ∈ t.frames ↔ other ∈ s.frames))
      (fun _ t => Sound python t ∧ Evolves marks s t) (fun t => Sound python t ∧ Evolves marks s t) s := by
  have start : Sound python s ∧ Evolves marks s s := ⟨sound, .refl⟩
  have known := known_of_mem mem (by simp [staging])
  unfold FrameSpool.recoverStaging
  rw [Prog.wp_bind, Prog.wp_rescue, Prog.wp_bind]
  refine Prog.wp_mono wp_readRowFile ?_ ?_ ?_
  · rintro body t ⟨rfl, stable, found, size, digest⟩
    rw [Prog.wp_pure, if_pos rfl, Prog.wp_rescue]
    exact Prog.wp_mono (wp_activate sound mem staging found size digest) (fun _ _ h => h) (fun _ _ h => h)
      fun _ h => h
  · rintro e t rfl
    cases e with
    | spool message =>
      dsimp only
      rw [Prog.wp_pure, if_neg (by decide), Prog.wp_bind]
      exact Prog.wp_mono (wp_deleteStagingRow sound known) (fun _ _ h => h) (fun _ _ h => h.elim) fun _ h => h
    | budget message => exact start
    | os => exact start
    | database => exact start
  · rintro t rfl
    exact start

theorem wp_recoverStagings (marks : List Int) {rows : List Row} (sound : Sound python s)
    (all : ∀ row ∈ rows, row ∈ s.frames ∧ row.state = .staging)
    (apart : rows.Pairwise fun a b => a.frameSequence ≠ b.frameSequence) :
    (FrameSpool.recoverStagings python rows).wp (fun _ t => Sound python t ∧ Evolves marks s t)
      (fun _ t => Sound python t ∧ Evolves marks s t) (fun t => Sound python t ∧ Evolves marks s t) s := by
  induction rows generalizing s with
  | nil => exact ⟨sound, .refl⟩
  | cons row rows ih =>
    obtain ⟨distinct, apart⟩ := List.pairwise_cons.mp apart
    obtain ⟨mem, staging⟩ := all row List.mem_cons_self
    unfold FrameSpool.recoverStagings
    rw [Prog.wp_bind]
    refine Prog.wp_mono (wp_recoverStaging marks sound mem staging) ?_ (fun _ _ h => h) fun _ h => h
    rintro _ t ⟨⟨sound, evolves⟩, others⟩
    have next := ih sound (by
      intro other listed
      obtain ⟨there, state⟩ := all other (List.mem_cons_of_mem _ listed)
      exact ⟨(others other (distinct other listed).symm).mpr there, state⟩) apart
    exact Prog.wp_mono next (fun _ _ h => ⟨h.1, evolves.trans h.2⟩) (fun _ _ h => ⟨h.1, evolves.trans h.2⟩)
      fun _ h => ⟨h.1, evolves.trans h.2⟩

theorem wp_recoverGroups (marks : List Int) {groups : List (String × List Row)} (sound : Sound python s)
    (known : ∀ group ∈ groups, ∀ row ∈ group.2, Known row s) :
    (FrameSpool.recoverGroups python groups).wp (fun _ t => Sound python t ∧ Evolves marks s t)
      (fun _ t => Sound python t ∧ Evolves marks s t) (fun t => Sound python t ∧ Evolves marks s t) s := by
  induction groups generalizing s with
  | nil => exact ⟨sound, .refl⟩
  | cons group groups ih =>
    obtain ⟨expected, group⟩ := group
    have next : ∀ t, (Sound python t ∧ Evolves marks s t) ∧ (∀ other ∈ t.frames, other ∈ s.frames) →
        (FrameSpool.recoverGroups python groups).wp (fun _ t => Sound python t ∧ Evolves marks s t)
          (fun _ t => Sound python t ∧ Evolves marks s t) (fun t => Sound python t ∧ Evolves marks s t) t := by
      rintro t ⟨⟨sound, evolves⟩, sub⟩
      have after := ih sound fun group mem row listed =>
        ⟨(known group (List.mem_cons_of_mem _ mem) row listed).1, fun other there =>
          (known group (List.mem_cons_of_mem _ mem) row listed).2 other (sub other there)⟩
      exact Prog.wp_mono after (fun _ _ h => ⟨h.1, evolves.trans h.2⟩) (fun _ _ h => ⟨h.1, evolves.trans h.2⟩)
        fun _ h => ⟨h.1, evolves.trans h.2⟩
    have start := next s ⟨⟨sound, .refl⟩, fun _ mem => mem⟩
    unfold FrameSpool.recoverGroups
    rw [Prog.wp_bind, Prog.wp_rescue, Prog.wp_bind]
    refine reads_proofForTokens.wp_any (fun supplied => ?_) (fun _ => start) ⟨sound, .refl⟩
    split
    · rw [Prog.wp_bind]
      exact Prog.wp_mono (wp_releaseRows marks sound (known _ List.mem_cons_self))
        (fun _ t h => next t h) (fun _ t h => next t h) fun _ h => h.1
    · exact start

theorem mem_bySequence {rows : List Row} : row ∈ FrameSpool.bySequence rows ↔ row ∈ rows :=
  (List.mergeSort_perm rows _).mem_iff

theorem bySequence_apart {frames : Table Row} {p : Row → Prop} [DecidablePred p] :
    (FrameSpool.bySequence (frames.select p)).Pairwise fun a b => a.frameSequence ≠ b.frameSequence :=
  (List.Perm.pairwise_iff (fun h => Ne.symm h) (List.mergeSort_perm _ _)).mpr (frames.distinct.filter _)

theorem mem_groups {rows : List Row} {group : String × List Row} (mem : group ∈ FrameSpool.groups rows)
    (listed : row ∈ group.2) : row ∈ rows := by
  obtain ⟨found, -, rfl⟩ := List.mem_map.mp mem
  obtain ⟨entry, proved, rfl⟩ := List.mem_map.mp listed
  obtain ⟨other, there, eq⟩ := List.mem_filterMap.mp (List.mem_filter.mp proved).1
  obtain ⟨proof, -, rfl⟩ := Option.map_eq_some_iff.mp eq
  exact there

theorem same_spend {f : Storage.Database → Storage.Database} : Prog.Guarantees Same (FrameSpool.spend f) := by
  intro s
  unfold FrameSpool.spend
  rw [Prog.wp_bind, Prog.wp_answer]
  intro w
  exact Prog.wp_commit ⟨rfl, rfl, rfl, rfl⟩ (refl_of _ s) ⟨refl_of _ s, rfl, rfl, rfl, rfl⟩

theorem same_releaseOrphans {reservations : List String} :
    Prog.Guarantees Same (FrameSpool.releaseOrphans reservations) := by
  induction reservations with
  | nil => exact Prog.Guarantees.pure
  | cons reservationId reservations ih =>
    exact Prog.Guarantees.bind (Prog.Guarantees.rescue same_spend fun _ => Prog.Guarantees.pure) fun _ => ih

theorem same_recoverOrphans : Prog.Guarantees Same self.recoverOrphans := by
  have category : ∀ referenced category, Prog.Guarantees Same (self.recoverCategory referenced category) :=
    fun referenced category => Prog.Guarantees.bind reads_call.guarantees fun _ =>
      Prog.Guarantees.bind Prog.Guarantees.read fun _ => same_releaseOrphans
  exact Prog.Guarantees.bind reads_call.guarantees fun _ => Prog.Guarantees.bind Prog.Guarantees.read fun _ =>
    Prog.Guarantees.bind (category _ _) fun _ => category _ _

/-- A program whose precondition is a sound state. -/
theorem kept_of_sound {α : Type} {p : Control α}
    (h : ∀ s, Sound python s → p.wp (fun _ t => Sound python t ∧ Evolves marks s t)
      (fun _ t => Sound python t ∧ Evolves marks s t) (fun t => Sound python t ∧ Evolves marks s t) s) :
    Kept python marks p := by
  intro s
  by_cases sound : Sound python s
  · exact Prog.wp_mono (h s sound) (fun _ _ h _ => h) (fun _ _ h _ => h) fun _ h _ => h
  · exact Prog.wp_mono (Prog.returns_any p s) (fun _ _ _ h => absurd h sound) (fun _ _ _ h => absurd h sound)
      fun _ _ h => absurd h sound

/-- The same, from a state that has evolved. -/
theorem wp_kept {α : Type} {p : Control α} (h : Kept python marks p) (before : Sound python t ∧ Evolves marks s t) :
    p.wp (fun _ u => Sound python u ∧ Evolves marks s u) (fun _ u => Sound python u ∧ Evolves marks s u)
      (fun u => Sound python u ∧ Evolves marks s u) t := by
  obtain ⟨sound, evolves⟩ := before
  have after : ∀ u, Keeps python marks t u → Sound python u ∧ Evolves marks s u := by
    intro u keeps
    obtain ⟨sound, evolves'⟩ := keeps sound
    exact ⟨sound, evolves.trans evolves'⟩
  exact Prog.wp_mono (h t) (fun _ => after) (fun _ => after) after

theorem kept_recoverOrphans : Kept python marks self.recoverOrphans :=
  same_recoverOrphans.mono fun _ _ h => h.keeps marks

/-- What `recover` does with a proof, after the frames that were being staged. -/
theorem kept_recoverMarked : Kept python marks (do
    let _ ← call .database
    let spool ← Prog.read
    FrameSpool.recoverGroups python (FrameSpool.groups (FrameSpool.bySequence
      (spool.frames.select fun row => row.state = .releasable)))
    self.recoverOrphans) := by
  refine Prog.Guarantees.bind reads_call.guarantees fun _ => kept_of_sound fun s sound => ?_
  rw [Prog.wp_bind, Prog.wp_read, Prog.wp_bind]
  refine Prog.wp_mono (wp_recoverGroups marks sound ?_) (fun _ t h => wp_kept kept_recoverOrphans h)
    (fun _ _ h => h) fun _ h => h
  intro group mem row listed
  obtain ⟨there, state⟩ := Table.mem_select.mp (mem_bySequence.mp (mem_groups mem listed))
  exact known_of_mem there (by simp [state])

theorem kept_recover {durableProof : Bool} : Kept python marks (self.recover python durableProof) := by
  unfold FrameSpool.recover
  refine Prog.Guarantees.ite Prog.Guarantees.pure (Prog.Guarantees.bind reads_call.guarantees fun _ => ?_)
  refine kept_of_sound fun s sound => ?_
  rw [Prog.wp_bind, Prog.wp_read, Prog.wp_bind]
  refine Prog.wp_mono (wp_recoverStagings marks sound
    (fun row mem => by simpa using mem_bySequence.mp mem) bySequence_apart) ?_ (fun _ _ h => h) fun _ h => h
  intro _ t h
  dsimp only
  split
  · exact wp_kept kept_recoverMarked h
  · exact wp_kept kept_recoverOrphans h

theorem reads_bookkeepingBytes {bounds : Bounds} : Reads (Opening.bookkeepingBytes bounds) :=
  Prog.Guarantees.bind reads_call fun _ => Prog.Guarantees.bind reads_check fun _ => Prog.Guarantees.pure

theorem reads_assertRetiredEmpty {bounds : Bounds} : Reads (Opening.assertRetiredEmpty bounds) :=
  Prog.Guarantees.bind reads_call fun _ => Prog.Guarantees.bind Prog.Guarantees.read fun _ =>
    Prog.Guarantees.bind reads_check fun _ => Prog.Guarantees.bind reads_bookkeepingBytes fun _ => reads_check

/-- The end of `finalcleanup` changes the charges only. -/
theorem guarantees_retire {rel : Spool → Spool → Prop} [Std.Refl rel] [IsTrans Spool rel]
    {budget : Storage.DiskBudget} (spends : ∀ f, Prog.Guarantees rel (FrameSpool.spend f)) :
    Prog.Guarantees rel (self.retire budget) := by
  unfold FrameSpool.retire
  refine Prog.Guarantees.bind reads_call.guarantees fun _ => Prog.Guarantees.bind reads_call.guarantees fun _ => ?_
  refine Prog.Guarantees.bind reads_bookkeepingBytes.guarantees fun actual => ?_
  have charge : Prog.Guarantees rel (do
      let reservationId ←
        Prog.ofExcept (orFail self.journalReservation (.spool "Spool retirement journal is unavailable"))
      let spool ← Prog.read
      let charged ← Prog.ofExcept ((budget.commitId spool.budget reservationId actual).mapError .budget)
      FrameSpool.spend fun _ => charged) :=
    Prog.Guarantees.bind Prog.Guarantees.ofExcept fun _ => Prog.Guarantees.bind Prog.Guarantees.read fun _ =>
      Prog.Guarantees.bind Prog.Guarantees.ofExcept fun _ => spends _
  split
  · exact Prog.Guarantees.bind (spends _) fun _ => charge
  · exact charge

/-- `finalcleanup` closes a spool without frames and without files. -/
theorem kept_finalcleanup {budget : Storage.DiskBudget} {durableProof : Bool} :
    Kept python marks (self.finalcleanup python budget durableProof) := by
  unfold FrameSpool.finalcleanup
  refine Prog.Guarantees.bind reads_call.guarantees fun _ => Prog.Guarantees.ite ?_ ?_
  · exact Prog.Guarantees.bind reads_assertRetiredEmpty.guarantees fun _ => Prog.Guarantees.pure
  refine Prog.Guarantees.bind kept_recover fun _ => Prog.Guarantees.bind reads_call.guarantees fun _ => ?_
  refine Prog.Guarantees.bind Prog.Guarantees.read fun _ => Prog.Guarantees.bind reads_check.guarantees fun _ => ?_
  have pending : Kept python marks (commit fun spool => { spool with
      spoolMeta := spool.spoolMeta.map fun values => { values with cleanupPending := true } }) := by
    intro s
    have kept : Keeps python marks s { s with
        spoolMeta := s.spoolMeta.map fun values => { values with cleanupPending := true } } := by
      intro sound
      refine ⟨⟨sound.known, ?_, ?_, sound.fits⟩, ⟨le_rfl, le_rfl⟩, ?_, fun row mem => .inl ⟨row, mem, rfl, rfl⟩,
        fun row mem _ _ => ⟨mem, fun view viewed => ⟨view, viewed, rfl⟩⟩⟩
      · intro values mem
        obtain ⟨old, listed, rfl⟩ := Option.map_eq_some_iff.mp mem
        exact sound.bounded old listed
      · exact fun absent => sound.blank (Option.map_eq_none_iff.mp absent)
      · exact fun values mem => ⟨_, Option.map_eq_some_iff.mpr ⟨values, mem, rfl⟩, rfl, rfl, fun _ => rfl⟩
    exact wp_transaction kept (refl_of _ s) ⟨refl_of _ s, kept⟩
  have synced : Kept python marks fsyncDirectory := fun s =>
    wp_fsyncDirectory ⟨refl_of _ s, refl_of _ s⟩ ⟨keeps_sync marks, keeps_sync marks, keeps_sync marks⟩
  refine Prog.Guarantees.bind (Prog.Guarantees.rescue ?_ fun _ => Prog.Guarantees.raise) fun _ => ?_
  · exact Prog.Guarantees.bind reads_call.guarantees fun _ => Prog.Guarantees.bind Prog.Guarantees.read fun _ =>
      Prog.Guarantees.bind reads_check.guarantees fun _ => synced
  refine Prog.Guarantees.bind (Prog.Guarantees.rescue ?_ fun _ => Prog.Guarantees.raise) fun _ => ?_
  · exact Prog.Guarantees.bind reads_call.guarantees fun _ => pending
  refine Prog.Guarantees.rescue (Prog.Guarantees.bind ?_ fun _ => Prog.Guarantees.pure) fun _ => Prog.Guarantees.pure
  exact (guarantees_retire fun _ => same_spend).mono fun _ _ h => h.keeps marks

end Recovering

end Reproof.Live.Frames

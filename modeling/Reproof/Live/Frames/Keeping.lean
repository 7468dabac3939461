import Reproof.Live.Frames.Staging

/-! What every call of a `FrameSpool` keeps, whatever the system answers and wherever the process ends. -/

namespace Reproof.Live.Frames

open Contracts Library

section Reading

variable {α : Type} {s : Spool}

def Unchanged (s t : Spool) : Prop := t = s

instance : Std.Refl Unchanged := ⟨fun _ => rfl⟩

instance : IsTrans Spool Unchanged := ⟨fun _ _ _ h h' => Eq.trans h' h⟩

/-- The programs that change nothing. -/
def Reads (p : Control α) : Prop := Prog.Guarantees Unchanged p

theorem Reads.wp {p : Control α} (h : Reads p) {P : α → Prop} {R : Failure → Spool → Prop} {C : Spool → Prop}
    {Q : α → Spool → Prop} (found : p.wp (fun a _ => P a) (fun _ _ => True) (fun _ => True) s)
    (done : ∀ a, P a → Q a s) (raised : ∀ e, R e s) (crashed : C s) : p.wp Q R C s := by
  refine Prog.wp_mono (Prog.wp_and (h s) found) ?_ ?_ ?_
  · rintro a t ⟨rfl, holds⟩
    exact done a holds
  · rintro e t ⟨rfl, -⟩
    exact raised e
  · rintro t ⟨rfl, -⟩
    exact crashed

/-- What a program that reads only is followed by. -/
theorem Reads.wp_any {p : Control α} (h : Reads p) {R : Failure → Spool → Prop} {C : Spool → Prop}
    {Q : α → Spool → Prop} (done : ∀ a, Q a s) (raised : ∀ e, R e s) (crashed : C s) : p.wp Q R C s :=
  h.wp (P := fun _ => True) (Prog.returns_any p s) (fun a _ => done a) raised crashed

/-- A program that changes nothing guarantees whatever holds of a state and itself. -/
theorem Reads.guarantees {rel : Spool → Spool → Prop} [Std.Refl rel] {p : Control α} (h : Reads p) :
    Prog.Guarantees rel p :=
  h.mono fun s t eq => by
    rw [show t = s from eq]
    exact refl_of rel s

theorem reads_call {e : Failure} : Reads (call e) := fun _ => wp_call (fun _ => rfl) rfl rfl

theorem reads_check {p : Prop} [Decidable p] {message : String} : Reads (check p message) := fun _ =>
  wp_check (fun _ => rfl) rfl

theorem guarantees_closing {rel : Spool → Spool → Prop} [Std.Refl rel] [IsTrans Spool rel] {p : Control α}
    (h : Prog.Guarantees rel p) : Prog.Guarantees rel (closing p) := by
  unfold closing
  exact Prog.Guarantees.bind
    (Prog.Guarantees.rescue h fun _ => Prog.Guarantees.bind reads_call.guarantees fun _ => Prog.Guarantees.raise)
    fun _ => Prog.Guarantees.bind reads_call.guarantees fun _ => Prog.Guarantees.pure

theorem Reads.closing {p : Control α} (h : Reads p) : Reads (closing p) := guarantees_closing h

theorem reads_readRowFile {python : Interpreter} {row : Row} : Reads (readRowFile python row) := by
  refine Prog.Guarantees.bind reads_call fun _ => Prog.Guarantees.bind Prog.Guarantees.read fun spool => ?_
  split
  · exact Prog.Guarantees.raise
  · refine Prog.Guarantees.bind reads_check fun _ => Prog.Guarantees.bind (Reads.closing reads_call) fun _ => ?_
    exact Prog.Guarantees.bind reads_check fun _ => Prog.Guarantees.pure

/-- What has been read is the frame file, of the size and with the digest of the row. -/
theorem wp_readRowFile {python : Interpreter} {row : Row} : (readRowFile python row).wp
    (fun body t => t = s ∧ ∃ stable, s.disk.view.get? row.framePath = some ⟨body, stable⟩ ∧ body.length = row.size ∧
      python.sha256 body = row.digest) (fun _ t => t = s) (fun t => t = s) s := by
  unfold readRowFile
  rw [Prog.wp_bind]
  refine wp_call ?_ rfl rfl
  intro _
  rw [Prog.wp_bind, Prog.wp_read]
  split
  · rfl
  · rename_i file found
    rw [Prog.wp_bind]
    refine wp_check ?_ rfl
    intro size
    rw [Prog.wp_bind]
    refine (Reads.closing reads_call).wp_any ?_ (fun _ => rfl) rfl
    intro _
    rw [Prog.wp_bind]
    refine wp_check ?_ rfl
    intro digest
    exact ⟨rfl, file.stable, found, size, digest⟩

variable {self : FrameSpool}

theorem reads_writable : Reads self.writable := by
  refine Prog.Guarantees.bind reads_call fun _ => Prog.Guarantees.bind reads_call fun _ => ?_
  exact Prog.Guarantees.bind Prog.Guarantees.read fun _ => reads_check

theorem reads_rowForToken {token : SpoolToken} {state : FrameState} : Reads (self.rowForToken token state) := by
  refine Prog.Guarantees.bind reads_check fun _ => Prog.Guarantees.bind reads_check fun _ => ?_
  refine Prog.Guarantees.bind reads_call fun _ => Prog.Guarantees.bind Prog.Guarantees.read fun _ => ?_
  refine Prog.Guarantees.bind Prog.Guarantees.ofExcept fun _ => Prog.Guarantees.bind reads_check fun _ => ?_
  exact Prog.Guarantees.pure

/-- The row of a token is one of the table, in the state that is asked for. -/
theorem wp_rowForToken {token : SpoolToken} {state : FrameState} : (self.rowForToken token state).wp
    (fun row t => t = s ∧ row ∈ s.frames ∧ row.state = state ∧ row.frameSequence = token.frameSequence)
    (fun _ t => t = s) (fun t => t = s) s := by
  unfold FrameSpool.rowForToken
  rw [Prog.wp_bind]
  refine wp_check (fun _ => ?_) rfl
  rw [Prog.wp_bind]
  refine wp_check (fun _ => ?_) rfl
  rw [Prog.wp_bind]
  refine wp_call (fun _ => ?_) rfl rfl
  rw [Prog.wp_bind, Prog.wp_read, Prog.wp_bind, Prog.wp_ofExcept]
  refine ⟨?_, fun _ _ => rfl⟩
  intro row found
  rw [Prog.wp_bind]
  refine wp_check (fun _ => ?_) rfl
  obtain ⟨mem, sequence, in_state⟩ := Table.mem_of_find? (orFail_eq_ok.mp found)
  exact ⟨rfl, mem, in_state, sequence⟩

theorem wp_rowsForTokens {tokens : List SpoolToken} {state : FrameState} : (self.rowsForTokens state tokens).wp
    (fun rows t => t = s ∧ ∀ row ∈ rows, row ∈ s.frames ∧ row.state = state ∧
      row.frameSequence ∈ tokens.map (·.frameSequence))
    (fun _ t => t = s) (fun t => t = s) s := by
  induction tokens with
  | nil => exact ⟨rfl, by simp⟩
  | cons token tokens ih =>
    unfold FrameSpool.rowsForTokens
    rw [Prog.wp_bind]
    refine Prog.wp_mono wp_rowForToken ?_ (fun _ _ h => h) fun _ h => h
    rintro row t ⟨rfl, mem, in_state, sequence⟩
    rw [Prog.wp_bind]
    refine Prog.wp_mono ih ?_ (fun _ _ h => h) fun _ h => h
    rintro rows u ⟨rfl, all⟩
    refine ⟨rfl, ?_⟩
    intro other listed
    rcases List.mem_cons.mp listed with rfl | listed
    · exact ⟨mem, in_state, by simp [sequence]⟩
    · obtain ⟨mem, in_state, sequence⟩ := all other listed
      exact ⟨mem, in_state, List.mem_cons_of_mem _ sequence⟩

theorem reads_rowsForTokens {tokens : List SpoolToken} {state : FrameState} :
    Reads (self.rowsForTokens state tokens) := fun _ =>
  Prog.wp_mono wp_rowsForTokens (fun _ _ h => h.1) (fun _ _ h => h) fun _ h => h

theorem reads_tokens {tokens : List SpoolToken} {state : FrameState} : Reads (self.tokens tokens state) :=
  Prog.Guarantees.bind reads_check fun _ => Prog.Guarantees.bind reads_check fun _ => reads_rowsForTokens

theorem reads_proofForTokens {python : Interpreter} : Reads (FrameSpool.proofForTokens python) :=
  Prog.Guarantees.bind reads_call fun _ => Prog.Guarantees.bind Prog.Guarantees.ofExcept fun _ =>
    Prog.Guarantees.ofExcept

end Reading

section Keeping

variable {python : Interpreter} {marks : List Int} {s t : Spool} {row : Row} {self : FrameSpool}

/-- From a sound state, whatever happens, the state stays sound and evolves. -/
abbrev Kept (python : Interpreter) (marks : List Int) {α : Type} (p : Control α) : Prop :=
  Prog.Guarantees (Keeps python marks) p

/-- The spool is open with the bounds that it was made with. -/
def Fitting (self : FrameSpool) (spool : Spool) : Prop :=
  ∃ values ∈ spool.spoolMeta, values.maxFrames = self.maxFrames ∧ values.maxBytes = self.maxBytes

theorem Fitting.evolves (h : Fitting self s) (evolves : Evolves marks s t) : Fitting self t := by
  obtain ⟨values, mem, frames, bytes⟩ := h
  obtain ⟨later, mem, frames', bytes', -⟩ := evolves.bounds values mem
  exact ⟨later, mem, frames'.trans frames, bytes'.trans bytes⟩

/-- A frame that has been staged is active, and its file is there whatever comes back. -/
structure Held (row : Row) (body : Bytes) (spool : Spool) : Prop where
  mem : row ∈ spool.frames
  active : row.state = .active
  landed : Landed row body spool

theorem Held.evolves {body : Bytes} (h : Held row body s) (evolves : Evolves marks s t)
    (unmarked : row.frameSequence ∉ marks) : Held row body t := by
  obtain ⟨mem, back⟩ := evolves.kept row h.mem h.active unmarked
  refine ⟨mem, h.active, ?_⟩
  intro view viewed
  obtain ⟨past, viewed, same⟩ := back view viewed
  rw [same]
  exact h.landed past viewed

/-- `markActive` of a frame that is being staged and whose file has landed. -/
theorem wp_markActive (marks : List Int) {body : Bytes} (sound : Sound python s) (mem : row ∈ s.frames)
    (staging : row.state = .staging)
    (landed : Landed row body s) (size : body.length = row.size) (digest : python.sha256 body = row.digest) :
    (markActive row.frameSequence).wp
      (fun _ t => Sound python t ∧ Evolves marks s t ∧ Held { row with state := .active } body t ∧
        ∀ other : Row, other.frameSequence ≠ row.frameSequence → (other ∈ t.frames ↔ other ∈ s.frames))
      (fun _ t => t = s) (fun t => Sound python t ∧ Evolves marks s t) s := by
  unfold markActive
  rw [Prog.wp_bind]
  refine wp_call (fun _ => ?_) rfl ⟨sound, .refl⟩
  rw [Prog.wp_bind, Prog.wp_read, Prog.wp_bind]
  refine wp_check (fun _ => ?_) rfl
  rw [Prog.wp_bind, Prog.wp_ofExcept]
  refine ⟨?_, fun _ _ => rfl⟩
  intro frames updated
  have updated := orFail_eq_ok.mp updated
  have rows := Table.rows_of_update? updated
  have only : ∀ other ∈ s.frames, other.frameSequence = row.frameSequence ∧ other.state = .staging → other = row :=
    fun other listed h => eq_of_sequence listed mem h.1
  have kept : Sound python { s with frames } ∧ Evolves marks s { s with frames } := by
    refine sound.update updated (fun row => ⟨.active, row.proof, rfl⟩) ?_ ?_
    · intro other listed h _ view viewed
      rw [only other listed h]
      exact ⟨body, landed view viewed, size, digest⟩
    · intro other _ h active
      rw [h.2] at active
      cases active
  refine wp_transaction ⟨kept.1, kept.2, ⟨?_, rfl, landed⟩, ?_⟩ rfl ⟨⟨sound, .refl⟩, kept⟩
  · change _ ∈ frames.rows
    rw [rows]
    exact List.mem_map.mpr ⟨row, mem, if_pos ⟨rfl, staging⟩⟩
  · intro other different
    change other ∈ frames.rows ↔ _
    rw [rows, List.mem_map]
    constructor
    · rintro ⟨old, listed, rfl⟩
      by_cases h : old.frameSequence = row.frameSequence ∧ old.state = .staging
      · rw [if_pos h] at different
        exact absurd h.1 different
      · rw [if_neg h]
        exact listed
    · intro listed
      exact ⟨other, listed, if_neg fun h => different h.1⟩

/-- `deleteStaging` of a frame whose files are gone. -/
theorem wp_deleteStaging (marks : List Int) (sound : Sound python s) (known : Known row s) (gone : Gone row s) :
    (deleteStaging row.frameSequence).wp
      (fun _ t => Sound python t ∧ Evolves marks s t ∧
        ∀ other : Row, other.frameSequence ≠ row.frameSequence → (other ∈ t.frames ↔ other ∈ s.frames))
      (fun _ t => t = s) (fun t => Sound python t ∧ Evolves marks s t) s := by
  have kept := sound.delete marks s.recording.releasedCount
    (p := fun other => other.frameSequence = row.frameSequence ∧ other.state = .staging) (by
      intro other mem h
      rw [known.2 other mem h.1]
      exact ⟨known.1, gone⟩)
  unfold deleteStaging
  rw [Prog.wp_bind]
  refine wp_call (fun _ => ?_) rfl ⟨sound, .refl⟩
  refine wp_transaction ⟨kept.1, kept.2, ?_⟩ rfl ⟨⟨sound, .refl⟩, kept⟩
  intro other different
  rw [Table.mem_delete]
  exact ⟨fun h => h.1, fun mem => ⟨mem, fun h => different h.1⟩⟩

/-- What is left of a row of which only the files have changed. -/
theorem Touches.mem (h : Touches row s t) : t.frames = s.frames ∧ t.spoolMeta = s.spoolMeta := by
  obtain ⟨disk, rfl, -⟩ := h
  exact ⟨rfl, rfl⟩

theorem Clears.frames (h : Clears row s t) : t.frames = s.frames := by
  obtain ⟨disk, rfl, -⟩ := h
  rfl

/-- `insertRow` makes one row, of a frame later than all before, and no file has its name. -/
theorem wp_insertRow (marks : List Int) {frameSequence acquisitionSequence : Int} {body : Bytes}
    {digest metadataJson metadataDigest : String} (sound : Sound python s) (fitting : Fitting self s) :
    (self.insertRow frameSequence acquisitionSequence body digest metadataJson metadataDigest).wp
      (fun row t => (Sound python t ∧ Evolves marks s t) ∧ Gone row t ∧ row ∈ t.frames ∧ row.state = .staging ∧
        row.size = body.length ∧ row.digest = digest ∧ row.frameSequence = frameSequence ∧
        row.acquisitionSequence = acquisitionSequence ∧ row.metadataDigest = metadataDigest ∧
        row.metadataJson = metadataJson)
      (fun _ t => t = s) (fun t => Sound python t ∧ Evolves marks s t) s := by
  unfold FrameSpool.insertRow
  rw [Prog.wp_bind, Prog.wp_ofExcept]
  refine ⟨fun source _ => ?_, fun _ _ => rfl⟩
  rw [Prog.wp_bind, Prog.wp_ofExcept]
  refine ⟨fun journal _ => ?_, fun _ _ => rfl⟩
  rw [Prog.wp_bind]
  refine wp_call (fun w => ?_) rfl ⟨sound, .refl⟩
  rw [Prog.wp_bind, Prog.wp_read, Prog.wp_bind]
  refine wp_check (fun _ => ?_) rfl
  rw [Prog.wp_bind]
  refine wp_check (fun above => ?_) rfl
  rw [Prog.wp_bind]
  refine wp_check (fun few => ?_) rfl
  rw [Prog.wp_bind]
  refine wp_check (fun light => ?_) rfl
  rw [Prog.wp_bind, Prog.wp_ofExcept]
  refine ⟨?_, fun _ _ => rfl⟩
  intro frames inserted
  have inserted := orFail_eq_ok.mp inserted
  obtain ⟨values, opened, sameFrames, sameBytes⟩ := fitting
  have kept := sound.insert marks (s.recording.acceptedCount + 1) inserted (by simp) above
    (by
      intro absent
      rw [absent] at opened
      cases opened)
    (by
      intro other mem
      have same : other = values := Option.some.inj (mem.symm.trans opened)
      rw [same, sameFrames, sameBytes]
      exact ⟨few, light⟩)
  rw [Prog.wp_bind]
  refine wp_transaction ?_ rfl ⟨⟨sound, .refl⟩, kept⟩
  exact ⟨kept, sound.gone above.1, (Table.mem_insert? inserted).mpr (.inr rfl), rfl, rfl, rfl, rfl, rfl, rfl, rfl⟩

/-- A token is given for a frame that is held; whatever happens instead, nothing is left without its row. -/
theorem wp_stage (marks : List Int) (frameSequence acquisitionSequence : Int) (body : Bytes) (digest : String)
    (value : Json) (sound : Sound python s) (fitting : Fitting self s) :
    (self.stage python frameSequence acquisitionSequence body digest value).wp
      (fun token t => (Sound python t ∧ Evolves marks s t) ∧ ∃ row, Held row body t ∧
        token = row.token self.issuer self.recordingId ∧ row.frameSequence = frameSequence ∧
        row.acquisitionSequence = acquisitionSequence ∧ row.digest = digest ∧
        metadata python value = .ok (row.metadataJson, row.metadataDigest))
      (fun _ t => Sound python t ∧ Evolves marks s t) (fun t => Sound python t ∧ Evolves marks s t) s := by
  have start : Sound python s ∧ Evolves marks s s := ⟨sound, .refl⟩
  unfold FrameSpool.stage
  rw [Prog.wp_bind]
  refine reads_writable.wp_any (fun _ => ?_) (fun _ => start) start
  rw [Prog.wp_bind]
  refine wp_check (fun _ => ?_) start
  rw [Prog.wp_bind]
  refine wp_check (fun _ => ?_) start
  rw [Prog.wp_bind]
  refine wp_check (fun _ => ?_) start
  rw [Prog.wp_bind]
  refine wp_check (fun _ => ?_) start
  rw [Prog.wp_bind]
  refine wp_check (fun matching => ?_) start
  rw [Prog.wp_bind, Prog.wp_ofExcept]
  refine ⟨?_, fun _ _ => start⟩
  rintro ⟨metadataJson, metadataDigest⟩ described
  dsimp only
  rw [Prog.wp_bind, Prog.wp_rescue]
  refine Prog.wp_mono (wp_insertRow marks sound fitting) ?_ ?_ fun _ h => h
  · rintro row t ⟨⟨sound, evolves⟩, gone, mem, staging, size, digested, sequence, acquisition, meta_digest, meta_json⟩
    have inserted : Sound python t ∧ Evolves marks s t := ⟨sound, evolves⟩
    have idle : row.state ≠ .active := by simp [staging]
    -- what has happened to the files of the row since
    have onward : ∀ u, Touches row t u → Sound python u ∧ Evolves marks s u := by
      intro u touched
      obtain ⟨sound, evolves'⟩ := touched.keeps marks mem idle sound
      exact ⟨sound, evolves.trans evolves'⟩
    -- the row goes again, when its files are gone
    have undone : ∀ u, Touches row t u → Gone row u → ∀ e,
        Prog.wp (fun _ _ => False) (fun _ t => Sound python t ∧ Evolves marks s t)
          (fun t => Sound python t ∧ Evolves marks s t)
          (do
            (deleteStaging frameSequence).rescue fun _ => return ()
            (.raise (failWith e) : Control Unit)) u := by
      intro u touched gone e
      obtain ⟨sound, evolves⟩ := onward u touched
      have known : Known row u := known_of_mem (touched.mem.1 ▸ mem) idle
      rw [Prog.wp_bind, Prog.wp_rescue, ← sequence]
      refine Prog.wp_mono (wp_deleteStaging marks sound known gone) ?_ ?_ ?_
      · rintro _ v ⟨sound, evolves', -⟩
        exact ⟨sound, evolves.trans evolves'⟩
      · rintro _ v rfl
        exact ⟨sound, evolves⟩
      · rintro v ⟨sound, evolves'⟩
        exact ⟨sound, evolves.trans evolves'⟩
    rw [Prog.wp_bind, Prog.wp_rescue]
    refine wp_call (fun _ => ?_) ?_ inserted
    · rw [Prog.wp_rescue, Prog.wp_bind]
      have handled : ∀ u e, Touches row t u → Prog.wp
          (fun token v => (Sound python v ∧ Evolves marks s v) ∧ ∃ row, Held row body v ∧
            token = row.token self.issuer self.recordingId ∧ row.frameSequence = frameSequence ∧
            row.acquisitionSequence = acquisitionSequence ∧ row.digest = digest ∧
            metadata python value = .ok (row.metadataJson, row.metadataDigest))
          (fun _ v => Sound python v ∧ Evolves marks s v) (fun v => Sound python v ∧ Evolves marks s v)
          (do
            let clean ← cleanupRowFiles row
            if clean then (deleteStaging frameSequence).rescue fun _ => return ()
            (.raise (failWith e) : Control SpoolToken)) u := by
        intro u e touched
        rw [Prog.wp_bind]
        refine Prog.wp_mono wp_cleanupRowFiles ?_ (fun _ _ h => h.elim)
          fun v cleared => onward v (cleared.trans_touches touched)
        rintro clean v ⟨cleared, gone⟩
        have touched := cleared.trans_touches touched
        cases clean with
        | false => exact onward v touched
        | true =>
          have after := undone v touched (gone rfl) e
          rw [Prog.wp_bind] at after
          dsimp only
          rw [if_pos rfl, Prog.wp_bind]
          exact Prog.wp_mono after (fun _ _ h => h) (fun _ _ h => h) fun _ h => h
      refine Prog.wp_mono (wp_writeFile gone size.symm) ?_ (fun e u touched => handled u e touched)
        fun u touched => onward u touched
      rintro _ u ⟨touched, landed⟩
      obtain ⟨sound, evolves⟩ := onward u touched
      rw [Prog.wp_bind, ← sequence]
      have held := wp_markActive marks sound (touched.mem.1 ▸ mem) staging landed size.symm
        (matching.trans digested.symm)
      refine Prog.wp_mono held ?_ ?_ ?_
      · rintro _ v ⟨sound, evolves', held, -⟩
        refine ⟨⟨sound, evolves.trans evolves'⟩, _, held, rfl, rfl, acquisition, digested, ?_⟩
        rw [described, ← meta_digest, ← meta_json]
      · rintro e v rfl
        rw [sequence]
        exact handled v e touched
      · rintro v ⟨sound, evolves'⟩
        exact ⟨sound, evolves.trans evolves'⟩
    · have after := undone t (.refl gone) gone .database
      rw [Prog.wp_bind] at after ⊢
      exact Prog.wp_mono after (fun _ _ h => h) (fun _ _ h => h) fun _ h => h
  · rintro e t rfl
    exact start

end Keeping

end Reproof.Live.Frames

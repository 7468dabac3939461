import Reproof.Live.Frames.Histories

/-! The charge of a spool covers its files: it is held from the first opening on, and given back only after the last
file has gone. -/

namespace Reproof.Live.Frames

open Contracts Library

/-- The charge for the frames is there as long as there can be frames. -/
structure Backed (s : Spool) : Prop where
  created : s.spoolMeta ≠ none → s.created = true
  charged : ∀ values ∈ s.spoolMeta, values.cleanupPending = false →
    ∃ charge ∈ s.budget.reservations, charge.reservationId = values.sourceReservation ∧
      charge.chargedBytes = values.maxBytes
  final : ∀ values ∈ s.spoolMeta, values.cleanupPending = true → s.frames.rows = []

/-- Neither what is known of the spool nor its charges change. -/
structure Fixed (s t : Spool) : Prop where
  created : t.created = s.created
  spoolMeta : t.spoolMeta = s.spoolMeta
  budget : t.budget = s.budget

/-- No frames are added either. -/
structure Steady (s t : Spool) : Prop extends Fixed s t where
  rows : s.frames.rows = [] → t.frames.rows = []

instance : Std.Refl Fixed := ⟨fun _ => ⟨rfl, rfl, rfl⟩⟩

instance : IsTrans Spool Fixed where
  trans _ _ _ h h' := ⟨h'.1.trans h.1, h'.2.trans h.2, h'.3.trans h.3⟩

instance : Std.Refl Steady := ⟨fun s => ⟨refl_of Fixed s, id⟩⟩

instance : IsTrans Spool Steady where
  trans _ _ _ h h' := ⟨trans_of Fixed h.toFixed h'.toFixed, fun rows => h'.rows (h.rows rows)⟩

section Programs

variable {α : Type} {python : Interpreter} {s t : Spool} {row : Row} {self : FrameSpool}

theorem Steady.backed (h : Steady s t) (backed : Backed s) : Backed t where
  created := by
    rw [h.spoolMeta, h.created]
    exact backed.created
  charged := by
    rw [h.spoolMeta, h.budget]
    exact backed.charged
  final := by
    rw [h.spoolMeta]
    exact fun values mem pending => h.rows (backed.final values mem pending)

theorem steady_system {f : Disk FileName UInt8 → Disk FileName UInt8} : Prog.Guarantees Steady (system f) := by
  intro s
  have changed : Steady s { s with disk := f s.disk } := ⟨⟨rfl, rfl, rfl⟩, id⟩
  exact wp_system changed ⟨refl_of _ s, changed⟩ ⟨refl_of _ s, changed⟩

theorem steady_fsyncDirectory : Prog.Guarantees Steady fsyncDirectory :=
  Prog.Guarantees.bind reads_call.guarantees fun _ => guarantees_closing steady_system

theorem steady_unlinkFile {name : FileName} : Prog.Guarantees Steady (unlinkFile name) :=
  Prog.Guarantees.bind reads_call.guarantees fun _ => Prog.Guarantees.bind Prog.Guarantees.read fun _ =>
    Prog.Guarantees.ite Prog.Guarantees.pure steady_system

theorem steady_unlinkRow : Prog.Guarantees Steady (unlinkRow row) :=
  Prog.Guarantees.bind steady_unlinkFile fun _ => Prog.Guarantees.bind steady_unlinkFile fun _ =>
    Prog.Guarantees.bind Prog.Guarantees.read fun _ => reads_check.guarantees

theorem steady_cleanupRowFiles : Prog.Guarantees Steady (cleanupRowFiles row) := by
  refine Prog.Guarantees.rescue ?_ fun _ => Prog.Guarantees.pure
  exact Prog.Guarantees.bind steady_unlinkRow fun _ => Prog.Guarantees.bind steady_fsyncDirectory fun _ =>
    Prog.Guarantees.pure

theorem steady_writeBlocks {name : FileName} {fuel : Nat} {body : Bytes} :
    Prog.Guarantees Steady (writeBlocks name fuel body) := by
  induction fuel generalizing body with
  | zero =>
    cases body with
    | nil => exact Prog.Guarantees.pure
    | cons byte body => exact Prog.Guarantees.raise
  | succ fuel ih =>
    cases body with
    | nil => exact Prog.Guarantees.pure
    | cons byte body =>
      unfold writeBlocks
      refine Prog.Guarantees.bind Prog.Guarantees.answer fun w => ?_
      refine Prog.Guarantees.bind ?_ fun _ => Prog.Guarantees.bind reads_check.guarantees fun _ => ih
      intro s
      rw [Prog.wp_write]
      have changed : ∀ disk, Steady s { s with disk } := fun _ => ⟨⟨rfl, rfl, rfl⟩, id⟩
      cases w.fate with
      | done => exact changed _
      | failed applied =>
        cases applied with
        | true => exact changed _
        | false => exact refl_of _ s
      | crashed applied =>
        cases applied with
        | true => exact changed _
        | false => exact refl_of _ s

theorem steady_writeFile {body : Bytes} : Prog.Guarantees Steady (writeFile row body) := by
  refine Prog.Guarantees.bind reads_call.guarantees fun _ => Prog.Guarantees.bind Prog.Guarantees.read fun _ => ?_
  refine Prog.Guarantees.bind reads_check.guarantees fun _ => Prog.Guarantees.bind Prog.Guarantees.ensure fun _ => ?_
  refine Prog.Guarantees.bind steady_system fun _ => Prog.Guarantees.bind (guarantees_closing ?_) fun _ => ?_
  · exact Prog.Guarantees.bind steady_writeBlocks fun _ => steady_system
  · exact Prog.Guarantees.bind steady_system fun _ => steady_fsyncDirectory

/-- A transaction that changes rows, and adds none. -/
theorem steady_update {p : Row → Prop} [DecidablePred p] {f : Row → Row} {frames : Table Row}
    (updated : s.frames.update? p f = some frames) : Steady s { s with frames } := by
  refine ⟨⟨rfl, rfl, rfl⟩, fun rows => ?_⟩
  change frames.rows = []
  rw [Table.rows_of_update? updated, rows]
  rfl

theorem steady_transaction {f : Spool → Spool} (changed : Steady s (f s)) :
    (commit f).wp (fun _ t => Steady s t) (fun _ t => Steady s t) (Steady s) s :=
  wp_transaction changed (refl_of _ s) ⟨refl_of _ s, changed⟩

theorem steady_markActive {frameSequence : Int} : Prog.Guarantees Steady (markActive frameSequence) := by
  refine Prog.Guarantees.bind reads_call.guarantees fun _ => ?_
  intro s
  rw [Prog.wp_bind, Prog.wp_read, Prog.wp_bind]
  refine wp_check (fun _ => ?_) (refl_of _ s)
  rw [Prog.wp_bind, Prog.wp_ofExcept]
  exact ⟨fun frames updated => steady_transaction (steady_update (orFail_eq_ok.mp updated)), fun _ _ => refl_of _ s⟩

theorem steady_deleteStaging {frameSequence : Int} : Prog.Guarantees Steady (deleteStaging frameSequence) := by
  refine Prog.Guarantees.bind reads_call.guarantees fun _ => ?_
  refine fun s => steady_transaction ⟨⟨rfl, rfl, rfl⟩, fun rows => ?_⟩
  change s.frames.rows.filter _ = []
  rw [rows]
  rfl

theorem steady_deleteStagingRow : Prog.Guarantees Steady (deleteStagingRow row) := by
  refine Prog.Guarantees.bind steady_cleanupRowFiles fun _ => Prog.Guarantees.ite ?_ Prog.Guarantees.pure
  refine Prog.Guarantees.rescue ?_ fun _ => Prog.Guarantees.pure
  exact Prog.Guarantees.bind steady_deleteStaging fun _ => Prog.Guarantees.pure

theorem steady_markReleasable {values : List SpoolToken} :
    Prog.Guarantees Steady (self.markReleasable python values) := by
  refine Prog.Guarantees.bind reads_writable.guarantees fun _ => ?_
  refine Prog.Guarantees.bind reads_tokens.guarantees fun _ => ?_
  refine Prog.Guarantees.bind reads_proofForTokens.guarantees fun _ => ?_
  refine Prog.Guarantees.bind reads_call.guarantees fun _ => ?_
  intro s
  rw [Prog.wp_bind, Prog.wp_read, Prog.wp_bind, Prog.wp_ofExcept]
  refine ⟨fun frames updated => ?_, fun _ _ => refl_of _ s⟩
  rw [Prog.wp_bind]
  exact steady_transaction (steady_update (orFail_eq_ok.mp updated))

theorem steady_unlinkRows {rows : List Row} : Prog.Guarantees Steady (FrameSpool.unlinkRows rows) := by
  induction rows with
  | nil => exact steady_fsyncDirectory
  | cons row rows ih => exact Prog.Guarantees.bind steady_unlinkRow fun _ => ih

theorem steady_releaseRows {rows : List Row} : Prog.Guarantees Steady (FrameSpool.releaseRows rows) := by
  refine Prog.Guarantees.bind (Prog.Guarantees.rescue steady_unlinkRows fun _ => Prog.Guarantees.raise) fun _ => ?_
  refine Prog.Guarantees.bind (Prog.Guarantees.rescue ?_ fun _ => Prog.Guarantees.raise) fun _ => Prog.Guarantees.pure
  refine Prog.Guarantees.bind reads_call.guarantees fun _ => ?_
  intro s
  rw [Prog.wp_bind, Prog.wp_read, Prog.wp_bind]
  refine wp_check (fun _ => steady_transaction ⟨⟨rfl, rfl, rfl⟩, fun rows => ?_⟩) (refl_of _ s)
  change s.frames.rows.filter _ = []
  rw [rows]
  rfl

theorem steady_releaseMarked {values : List SpoolToken} : Prog.Guarantees Steady (self.releaseMarked python values) :=
  Prog.Guarantees.bind reads_tokens.guarantees fun _ => Prog.Guarantees.bind reads_rowsForTokens.guarantees fun _ =>
    Prog.Guarantees.bind reads_check.guarantees fun _ => Prog.Guarantees.bind reads_proofForTokens.guarantees fun _ =>
      Prog.Guarantees.bind reads_check.guarantees fun _ => steady_releaseRows

theorem steady_release {values : List SpoolToken} : Prog.Guarantees Steady (self.release python values) :=
  Prog.Guarantees.bind reads_tokens.guarantees fun _ => Prog.Guarantees.bind steady_markReleasable fun _ =>
    Prog.Guarantees.bind reads_tokens.guarantees fun _ => Prog.Guarantees.bind reads_rowsForTokens.guarantees fun _ =>
      steady_releaseRows

theorem steady_recoverStaging : Prog.Guarantees Steady (FrameSpool.recoverStaging python row) := by
  unfold FrameSpool.recoverStaging
  refine Prog.Guarantees.bind (Prog.Guarantees.rescue ?_ fun e => ?_) fun _ => Prog.Guarantees.ite ?_ ?_
  · exact Prog.Guarantees.bind reads_readRowFile.guarantees fun _ => Prog.Guarantees.pure
  · cases e <;> first | exact Prog.Guarantees.pure | exact Prog.Guarantees.raise
  · refine Prog.Guarantees.rescue ?_ fun _ => Prog.Guarantees.pure
    exact Prog.Guarantees.bind steady_unlinkFile fun _ => Prog.Guarantees.bind steady_fsyncDirectory fun _ =>
      steady_markActive
  · exact Prog.Guarantees.bind steady_deleteStagingRow fun _ => Prog.Guarantees.pure

theorem steady_recoverStagings {rows : List Row} : Prog.Guarantees Steady (FrameSpool.recoverStagings python rows) := by
  induction rows with
  | nil => exact Prog.Guarantees.pure
  | cons row rows ih => exact Prog.Guarantees.bind steady_recoverStaging fun _ => ih

theorem steady_recoverGroups {groups : List (String × List Row)} :
    Prog.Guarantees Steady (FrameSpool.recoverGroups python groups) := by
  induction groups with
  | nil => exact Prog.Guarantees.pure
  | cons group groups ih =>
    refine Prog.Guarantees.bind (Prog.Guarantees.rescue ?_ fun _ => Prog.Guarantees.pure) fun _ => ih
    refine Prog.Guarantees.bind reads_proofForTokens.guarantees fun _ => Prog.Guarantees.ite ?_ Prog.Guarantees.pure
    exact Prog.Guarantees.bind steady_releaseRows fun _ => Prog.Guarantees.pure

/-- `_writable` lets nothing through once the last cleanup has begun. -/
theorem wp_writable : self.writable.wp
    (fun _ _ => ∃ values ∈ s.spoolMeta, values.cleanupPending = false) (fun _ _ => True) (fun _ => True) s := by
  unfold FrameSpool.writable
  rw [Prog.wp_bind]
  refine wp_call (fun _ => ?_) trivial trivial
  rw [Prog.wp_bind]
  refine wp_call (fun _ => ?_) trivial trivial
  rw [Prog.wp_bind, Prog.wp_read]
  exact wp_check (fun h => h.2) trivial

theorem fixed_insertRow {frameSequence acquisitionSequence : Int} {body : Bytes}
    {digest metadataJson metadataDigest : String} : Prog.Guarantees Fixed
      (self.insertRow frameSequence acquisitionSequence body digest metadataJson metadataDigest) := by
  unfold FrameSpool.insertRow
  refine Prog.Guarantees.bind Prog.Guarantees.ofExcept fun _ => ?_
  refine Prog.Guarantees.bind Prog.Guarantees.ofExcept fun _ => ?_
  refine Prog.Guarantees.bind reads_call.guarantees fun _ => Prog.Guarantees.bind Prog.Guarantees.read fun _ => ?_
  refine Prog.Guarantees.bind reads_check.guarantees fun _ => Prog.Guarantees.bind reads_check.guarantees fun _ => ?_
  refine Prog.Guarantees.bind reads_check.guarantees fun _ => Prog.Guarantees.bind reads_check.guarantees fun _ => ?_
  refine Prog.Guarantees.bind Prog.Guarantees.ofExcept fun _ => ?_
  refine Prog.Guarantees.bind ?_ fun _ => Prog.Guarantees.pure
  exact fun s => wp_transaction ⟨rfl, rfl, rfl⟩ (refl_of _ s) ⟨refl_of _ s, rfl, rfl, rfl⟩

theorem fixed_deleteStaging {frameSequence : Int} : Prog.Guarantees Fixed (deleteStaging frameSequence) :=
  steady_deleteStaging.mono fun _ _ h => h.toFixed

/-- A frame is staged only while the charge is held, and the charge is held to its end. -/
theorem wp_stage_backed {frameSequence acquisitionSequence : Int} {body : Bytes} {digest : String} {value : Json}
    (backed : Backed s) : (self.stage python frameSequence acquisitionSequence body digest value).wp
      (fun _ t => Backed t ∧ Fixed s t) (fun _ t => Backed t ∧ Fixed s t) (fun t => Backed t ∧ Fixed s t) s := by
  have start : Backed s ∧ Fixed s s := ⟨backed, refl_of _ s⟩
  unfold FrameSpool.stage
  rw [Prog.wp_bind]
  refine reads_writable.wp wp_writable ?_ (fun _ => start) start
  rintro _ ⟨values, mem, admitting⟩
  have after : ∀ t, Fixed s t → Backed t ∧ Fixed s t := by
    intro t fixed
    refine ⟨⟨?_, ?_, ?_⟩, fixed⟩
    · rw [fixed.spoolMeta, fixed.created]
      exact backed.created
    · rw [fixed.spoolMeta, fixed.budget]
      exact backed.charged
    · rw [fixed.spoolMeta]
      intro other listed pending
      have same : other = values := Option.some.inj (listed.symm.trans mem)
      rw [same, admitting] at pending
      cases pending
  refine Prog.wp_mono ((?_ : Prog.Guarantees Fixed _) s) (fun _ => after) (fun _ => after) after
  refine Prog.Guarantees.bind reads_check.guarantees fun _ => Prog.Guarantees.bind reads_check.guarantees fun _ => ?_
  refine Prog.Guarantees.bind reads_check.guarantees fun _ => Prog.Guarantees.bind reads_check.guarantees fun _ => ?_
  refine Prog.Guarantees.bind reads_check.guarantees fun _ => Prog.Guarantees.bind Prog.Guarantees.ofExcept fun _ => ?_
  refine Prog.Guarantees.bind (Prog.Guarantees.rescue fixed_insertRow fun _ => Prog.Guarantees.raise) fun row => ?_
  have undone : ∀ e, Prog.Guarantees Fixed (do
      (deleteStaging frameSequence).rescue fun _ => return ()
      (.raise e : Control SpoolToken)) := fun e =>
    Prog.Guarantees.bind (Prog.Guarantees.rescue fixed_deleteStaging fun _ => Prog.Guarantees.pure) fun _ =>
      Prog.Guarantees.raise
  refine Prog.Guarantees.bind (Prog.Guarantees.rescue reads_call.guarantees fun e => ?_) fun _ => ?_
  · exact Prog.Guarantees.bind (Prog.Guarantees.rescue fixed_deleteStaging fun _ => Prog.Guarantees.pure) fun _ =>
      Prog.Guarantees.raise
  refine Prog.Guarantees.rescue ?_ fun e => ?_
  · have written : Prog.Guarantees Steady (do
        writeFile row body
        markActive frameSequence
        return row.token self.issuer self.recordingId) :=
      Prog.Guarantees.bind steady_writeFile fun _ => Prog.Guarantees.bind steady_markActive fun _ =>
        Prog.Guarantees.pure
    exact written.mono fun _ _ h => h.toFixed
  · refine Prog.Guarantees.bind (steady_cleanupRowFiles.mono fun _ _ h => h.toFixed) fun clean => ?_
    dsimp only
    split
    · exact undone _
    · exact Prog.Guarantees.raise

/-- One reservation is left alone, and no frames are added. -/
structure Spares (reservationId : String) (s t : Spool) : Prop where
  created : t.created = s.created
  spoolMeta : t.spoolMeta = s.spoolMeta
  kept : ∀ charge ∈ s.budget.reservations, charge.reservationId = reservationId → charge ∈ t.budget.reservations
  rows : s.frames.rows = [] → t.frames.rows = []

variable {reservationId : String}

instance : Std.Refl (Spares reservationId) := ⟨fun _ => ⟨rfl, rfl, fun _ mem _ => mem, id⟩⟩

instance : IsTrans Spool (Spares reservationId) where
  trans _ _ _ h h' := ⟨h'.created.trans h.created, h'.spoolMeta.trans h.spoolMeta,
    fun charge mem same => h'.kept charge (h.kept charge mem same) same, fun rows => h'.rows (h.rows rows)⟩

theorem Steady.spares (h : Steady s t) : Spares reservationId s t :=
  ⟨h.created, h.spoolMeta, fun charge mem _ => by
    rw [h.budget]
    exact mem, h.rows⟩

theorem spares_releaseOrphans {reservations : List String} (others : reservationId ∉ reservations) :
    Prog.Guarantees (Spares reservationId) (FrameSpool.releaseOrphans reservations) := by
  induction reservations with
  | nil => exact Prog.Guarantees.pure
  | cons other reservations ih =>
    have different : reservationId ≠ other := by
      rintro rfl
      exact others List.mem_cons_self
    have others : reservationId ∉ reservations := fun mem => others (List.mem_cons_of_mem _ mem)
    refine Prog.Guarantees.bind (Prog.Guarantees.rescue ?_ fun _ => Prog.Guarantees.pure) fun _ => ih others
    intro s
    have spared : Spares reservationId s { s with budget := s.budget.releaseId other } := by
      refine ⟨rfl, rfl, fun charge mem same => ?_, id⟩
      refine Table.mem_delete.mpr ⟨mem, fun released => different ?_⟩
      exact same.symm.trans released
    unfold FrameSpool.spend
    rw [Prog.wp_bind, Prog.wp_answer]
    exact fun w => Prog.wp_commit spared (refl_of _ s) ⟨refl_of _ s, spared⟩

theorem spares_recoverOrphans : Prog.Guarantees (Spares self.sourceReservationId) self.recoverOrphans := by
  have category : ∀ referenced category, self.sourceReservationId ∈ referenced →
      Prog.Guarantees (Spares self.sourceReservationId) (self.recoverCategory referenced category) := by
    intro referenced category listed
    refine Prog.Guarantees.bind reads_call.guarantees fun _ => ?_
    refine Prog.Guarantees.bind Prog.Guarantees.read fun spool => spares_releaseOrphans ?_
    intro mem
    obtain ⟨charge, chosen, same⟩ := List.mem_map.mp mem
    obtain ⟨-, -, -, unreferenced⟩ := Table.mem_select.mp chosen
    rw [same] at unreferenced
    exact unreferenced listed
  refine Prog.Guarantees.bind reads_call.guarantees fun _ => ?_
  refine Prog.Guarantees.bind Prog.Guarantees.read fun _ => ?_
  exact Prog.Guarantees.bind (category _ _ (by simp)) fun _ => category _ _ (by simp)

theorem spares_recover {durableProof : Bool} :
    Prog.Guarantees (Spares self.sourceReservationId) (self.recover python durableProof) := by
  have spares : ∀ {β : Type} {p : Control β}, Prog.Guarantees Steady p →
      Prog.Guarantees (Spares self.sourceReservationId) p := fun h => h.mono fun _ _ h => h.spares
  unfold FrameSpool.recover
  refine Prog.Guarantees.ite Prog.Guarantees.pure (Prog.Guarantees.bind reads_call.guarantees fun _ => ?_)
  refine Prog.Guarantees.bind Prog.Guarantees.read fun _ => ?_
  refine Prog.Guarantees.bind (spares steady_recoverStagings) fun _ => ?_
  dsimp only
  split
  · exact Prog.Guarantees.bind reads_call.guarantees fun _ => Prog.Guarantees.bind Prog.Guarantees.read fun _ =>
      Prog.Guarantees.bind (spares steady_recoverGroups) fun _ => spares_recoverOrphans
  · exact spares_recoverOrphans

/-- The handle knows the reservation that the spool was made with. -/
def Bound (self : FrameSpool) (s : Spool) : Prop :=
  ∃ values ∈ s.spoolMeta, values.sourceReservation = self.sourceReservationId

theorem Spares.backed (h : Spares self.sourceReservationId s t) (backed : Backed s) (bound : Bound self s) :
    Backed t := by
  obtain ⟨values, opened, source⟩ := bound
  refine ⟨?_, ?_, ?_⟩
  · rw [h.spoolMeta, h.created]
    exact backed.created
  · rw [h.spoolMeta]
    intro other mem pending
    have same : other = values := Option.some.inj (mem.symm.trans opened)
    obtain ⟨charge, listed, identified, amount⟩ := backed.charged other mem pending
    refine ⟨charge, h.kept charge listed ?_, identified, amount⟩
    rw [identified, same, source]
  · rw [h.spoolMeta]
    exact fun values mem pending => h.rows (backed.final values mem pending)

/-- Only the charges change. -/
structure Settles (s t : Spool) : Prop where
  created : t.created = s.created
  spoolMeta : t.spoolMeta = s.spoolMeta
  frames : t.frames = s.frames

instance : Std.Refl Settles := ⟨fun _ => ⟨rfl, rfl, rfl⟩⟩

instance : IsTrans Spool Settles where
  trans _ _ _ h h' := ⟨h'.1.trans h.1, h'.2.trans h.2, h'.3.trans h.3⟩

theorem settles_spend {f : Storage.Database → Storage.Database} : Prog.Guarantees Settles (FrameSpool.spend f) := by
  intro s
  unfold FrameSpool.spend
  rw [Prog.wp_bind, Prog.wp_answer]
  exact fun w => Prog.wp_commit ⟨rfl, rfl, rfl⟩ (refl_of _ s) ⟨refl_of _ s, rfl, rfl, rfl⟩

/-- What is kept for the calls that follow. -/
def Serves (self : FrameSpool) (s : Spool) : Prop := Backed s ∧ Bound self s

theorem Steady.serves (h : Steady s t) (serves : Serves self s) : Serves self t := by
  refine ⟨h.backed serves.1, ?_⟩
  unfold Bound
  rw [h.spoolMeta]
  exact serves.2

theorem Spares.serves (h : Spares self.sourceReservationId s t) (serves : Serves self s) : Serves self t := by
  refine ⟨h.backed serves.1 serves.2, ?_⟩
  unfold Bound
  rw [h.spoolMeta]
  exact serves.2

theorem wp_serves_steady {p : Control α} (h : Prog.Guarantees Steady p) (serves : Serves self s) :
    p.wp (fun _ => Serves self) (fun _ => Serves self) (Serves self) s :=
  Prog.wp_mono (h s) (fun _ _ h => h.serves serves) (fun _ _ h => h.serves serves) fun _ h => h.serves serves

/-- The charge is given back after the last frame has gone, and no frame comes after it. -/
theorem wp_finalcleanup_serves {budget : Storage.DiskBudget} {durableProof : Bool} (serves : Serves self s) :
    (self.finalcleanup python budget durableProof).wp (fun _ => Serves self) (fun _ => Serves self) (Serves self)
      s := by
  unfold FrameSpool.finalcleanup
  rw [Prog.wp_bind]
  refine wp_call (fun _ => ?_) serves serves
  split
  · rw [Prog.wp_bind]
    exact reads_assertRetiredEmpty.wp_any (fun _ => serves) (fun _ => serves) serves
  rw [Prog.wp_bind]
  have spared : ∀ t, Spares self.sourceReservationId s t → Serves self t := fun t h => h.serves serves
  refine Prog.wp_mono (spares_recover s) ?_ (fun _ => spared) spared
  intro _ t h
  have serves := spared t h
  rw [Prog.wp_bind]
  refine wp_call (fun _ => ?_) serves serves
  rw [Prog.wp_bind, Prog.wp_read, Prog.wp_bind]
  refine wp_check (fun rows => ?_) serves
  rw [Prog.wp_bind, Prog.wp_rescue]
  have emptied : Prog.Guarantees Steady (do
      let _ ← call .os
      let spool ← Prog.read
      check (Opening.Empty spool) "Unjournaled source files prevent final spool cleanup"
      fsyncDirectory) :=
    Prog.Guarantees.bind reads_call.guarantees fun _ => Prog.Guarantees.bind Prog.Guarantees.read fun _ =>
      Prog.Guarantees.bind reads_check.guarantees fun _ => steady_fsyncDirectory
  refine Prog.wp_mono (emptied t) ?_ (fun _ _ h => h.serves serves) fun _ h => h.serves serves
  intro _ u h
  have rows := h.rows rows
  have serves := h.serves serves
  rw [Prog.wp_bind, Prog.wp_rescue, Prog.wp_bind]
  refine wp_call (fun _ => ?_) serves serves
  have closing : ∀ v, Settles { u with
      spoolMeta := u.spoolMeta.map fun values => { values with cleanupPending := true } } v → Serves self v := by
    intro v h
    obtain ⟨values, opened, source⟩ := serves.2
    refine ⟨⟨?_, ?_, ?_⟩, ?_⟩
    · rw [h.created]
      exact fun _ => serves.1.created (by
        rw [show u.spoolMeta = some values from opened]
        simp)
    · rw [h.spoolMeta]
      intro other mem pending
      obtain ⟨old, -, rfl⟩ := Option.map_eq_some_iff.mp mem
      cases pending
    · rw [h.frames]
      exact fun _ _ _ => rows
    · unfold Bound
      rw [h.spoolMeta]
      exact ⟨_, Option.map_eq_some_iff.mpr ⟨values, opened, rfl⟩, source⟩
  refine wp_transaction ?_ serves ⟨serves, closing _ (refl_of _ _)⟩
  rw [Prog.wp_rescue, Prog.wp_bind]
  exact Prog.wp_mono (guarantees_retire (fun _ => settles_spend) _) (fun _ => closing) (fun _ => closing) closing

theorem Fixed.bound (h : Fixed s t) (bound : Bound self s) : Bound self t := by
  unfold Bound
  rw [h.spoolMeta]
  exact bound

theorem wp_exec_serves (python : Interpreter) (call : Call) (serves : Serves self s) :
    (call.exec python self).wp (fun _ => Serves self) (fun _ => Serves self) (Serves self) s := by
  have ends : ∀ {β : Type} {p : Control β}, Prog.Guarantees Steady p →
      (p >>= fun _ => pure ()).wp (fun _ => Serves self) (fun _ => Serves self) (Serves self) s := by
    intro β p h
    rw [Prog.wp_bind]
    exact wp_serves_steady h serves
  cases call with
  | stage frameSequence acquisitionSequence body digest value =>
    unfold Call.exec
    rw [Prog.wp_bind]
    have after : ∀ t, Backed t ∧ Fixed s t → Serves self t := fun t h => ⟨h.1, h.2.bound serves.2⟩
    exact Prog.wp_mono (wp_stage_backed serves.1) (fun _ => after) (fun _ => after) after
  | read token => exact ends reads_read.guarantees
  | readMetadata token => exact ends reads_readMetadata.guarantees
  | markReleasable tokens => exact ends steady_markReleasable
  | releaseMarked tokens => exact ends steady_releaseMarked
  | release tokens => exact ends steady_release
  | recover durableProof =>
    have after : ∀ t, Spares self.sourceReservationId s t → Serves self t := fun t h => h.serves serves
    exact Prog.wp_mono (spares_recover s) (fun _ => after) (fun _ => after) after
  | finalcleanup budget durableProof =>
    unfold Call.exec
    rw [Prog.wp_bind]
    exact wp_finalcleanup_serves serves

end Programs

section Opening

variable {opening : Opening} {bounds : Bounds} {s t : Spool}

theorem Backed.of_none (absent : s.spoolMeta = none) : Backed s where
  created h := absurd absent h
  charged := by
    rw [absent]
    exact fun _ mem => by cases mem
  final := by
    rw [absent]
    exact fun _ mem => by cases mem

theorem reserve_charges {budget : Storage.DiskBudget} {db db' : Storage.Database} {sha256 : String → String}
    {owner category : String} {amount : Int} {idempotencyKey : Option String} {uuid identifier : String}
    {free : Option Int} (reserved : budget.reserve db sha256 owner category amount idempotencyKey uuid free =
      .ok (db', identifier)) : (∀ charge ∈ db.reservations, charge ∈ db'.reservations) ∧
      ∃ charge ∈ db'.reservations, charge.reservationId = identifier ∧ charge.chargedBytes = amount := by
  unfold Storage.DiskBudget.reserve at reserved
  simp only [Storage.integer, bind_eq_ok, require_eq_ok, orFail_eq_ok, pure_eq_ok, exists_const] at reserved
  obtain ⟨-, kind, -, _, ⟨-, rfl⟩, -, rest⟩ := reserved
  split at rest
  · rename_i existing found
    simp only [bind_eq_ok, require_eq_ok, pure_eq_ok, exists_const] at rest
    obtain ⟨⟨-, -, -, charged⟩, same⟩ := rest
    cases same
    obtain ⟨mem, -, identified⟩ := Table.mem_of_find? found
    exact ⟨fun _ mem => mem, existing, mem, identified, charged⟩
  · simp only [bind_eq_ok, require_eq_ok, orFail_eq_ok, pure_eq_ok, exists_const] at rest
    obtain ⟨-, -, -, -, -, -, reservations, inserted, same⟩ := rest
    cases same
    exact ⟨fun charge mem => (Table.mem_insert? inserted).mpr (.inl mem), _,
      (Table.mem_insert? inserted).mpr (.inr rfl), rfl, rfl⟩

/-- What `reserve` returns is the charge, and the others stay. -/
theorem wp_reserve {category key : String} {amount : Nat} : (opening.reserve category key amount).Returns
    (fun reservationId t => (∀ charge ∈ s.budget.reservations, charge ∈ t.budget.reservations) ∧
      ∃ charge ∈ t.budget.reservations, charge.reservationId = reservationId ∧ charge.chargedBytes = (amount : Int))
    s := by
  unfold Opening.reserve Prog.Returns
  rw [Prog.wp_bind]
  refine wp_call (fun w => ?_) trivial trivial
  rw [Prog.wp_bind, Prog.wp_read, Prog.wp_bind, Prog.wp_ofExcept]
  refine ⟨?_, fun _ _ => trivial⟩
  rintro ⟨budget, reservationId⟩ reserved
  have facts := reserve_charges (mapError_eq_ok.mp reserved)
  rw [Prog.wp_bind]
  unfold FrameSpool.spend
  rw [Prog.wp_bind, Prog.wp_answer]
  exact fun w => Prog.wp_commit facts trivial ⟨trivial, trivial⟩

/-- A spool is made with the charge for its frames. -/
theorem wp_openFresh_backed {issuer : Uuid} (absent : s.spoolMeta = none) : (opening.openFresh bounds issuer).wp
    Serves (fun _ => Backed) Backed s := by
  have blank : ∀ t, Same s t → Backed t := fun t h => .of_none (h.spoolMeta.trans absent)
  have back : ∀ {α : Type} (reservations : List String) (e : Failure) (Q : α → Spool → Prop) (t : Spool), Same s t →
      (do
        Opening.abandon reservations
        (.raise e : Control α)).wp Q (fun _ => Backed) Backed t := by
    intro α reservations e Q t same
    rw [Prog.wp_bind]
    exact Prog.wp_mono (same_abandon.from_state same) (fun _ => blank) (fun _ => blank) blank
  unfold Opening.openFresh
  rw [Prog.wp_bind, Prog.wp_rescue]
  refine Prog.wp_mono (Prog.wp_and (same_reserve s) wp_reserve) ?_ (fun e t h => back _ e _ t h.1)
    fun t h => blank t h.1
  rintro source t ⟨same, -, charge, listed, identified, amount⟩
  rw [Prog.wp_bind, Prog.wp_rescue]
  refine Prog.wp_mono (Prog.wp_and (same_reserve.from_state same) wp_reserve) ?_ (fun e u h => back _ e _ u h.1)
    fun u h => blank u h.1
  rintro journal u ⟨same, others, -⟩
  rw [Prog.wp_bind, Prog.wp_rescue]
  rw [Prog.wp_bind, Prog.wp_answer]
  intro w
  have step : Same u { u with created := true } := ⟨rfl, rfl, rfl, rfl⟩
  have made := trans_of Same same step
  rw [Prog.wp_bind]
  refine Prog.wp_commit ?_ (back _ _ _ u same) ⟨blank u same, blank _ made⟩
  unfold Opening.initializeTables
  rw [Prog.wp_bind]
  refine wp_call (fun _ => ?_) (back _ _ _ _ made) (blank _ made)
  have backed : ∀ values : Meta, values.sourceReservation = source → values.maxBytes = bounds.maxBytes →
      values.cleanupPending = false → Backed { u with
        created := true
        spoolMeta := some values } := by
    intro values from_source bytes admitting
    refine ⟨fun _ => rfl, ?_, ?_⟩
    · intro other mem _
      obtain rfl := Option.some.inj mem
      exact ⟨charge, others charge listed, identified.trans from_source.symm, by rw [amount, bytes]⟩
    · intro other mem pending
      obtain rfl := Option.some.inj mem
      rw [admitting] at pending
      cases pending
  exact wp_transaction ⟨backed _ rfl rfl rfl, _, rfl, rfl⟩ (back _ _ _ _ made) ⟨blank _ made, backed _ rfl rfl rfl⟩

theorem wp_openSpool_backed (opening : Opening) (backed : Backed s) :
    opening.openSpool.wp Serves (fun _ => Backed) Backed s := by
  unfold Opening.openSpool
  rw [Prog.wp_bind]
  refine wp_check (fun _ => ?_) backed
  rw [Prog.wp_bind, Prog.wp_ofExcept]
  refine ⟨fun bounds _ => ?_, fun _ _ => backed⟩
  rw [Prog.wp_bind]
  refine wp_call (fun w => ?_) backed backed
  rw [Prog.wp_bind, Prog.wp_read, Prog.wp_bind]
  refine wp_check (fun _ => ?_) backed
  have adopted : ∀ bounds values, values ∈ s.spoolMeta →
      (opening.adopt bounds w.uuid values).wp Serves (fun _ => Backed) Backed s := by
    intro bounds values mem
    refine Prog.wp_mono (wp_adopt mem) ?_ ?_ ?_
    · rintro self t ⟨rfl, -, source⟩
      exact ⟨backed, values, mem, source.symm⟩
    · rintro e t rfl
      exact backed
    · rintro t rfl
      exact backed
  split
  · rename_i absent
    rw [Prog.wp_bind]
    exact wp_check (fun _ => wp_openFresh_backed absent) backed
  · rename_i values found
    split
    · rw [Prog.wp_bind, Prog.wp_ofExcept]
      exact ⟨fun saved _ => adopted saved values found, fun _ _ => backed⟩
    · exact adopted bounds values found

/-- `retireUninitialized` gives nothing back once the database is there. -/
theorem wp_retireUninitialized_backed (opening : Opening) (backed : Backed s) :
    opening.retireUninitialized.wp (fun _ => Backed) (fun _ => Backed) Backed s := by
  by_cases absent : s.spoolMeta = none
  · have blank : ∀ t, Same s t → Backed t := fun t h => .of_none (h.spoolMeta.trans absent)
    exact Prog.wp_mono (same_retireUninitialized opening s) (fun _ => blank) (fun _ => blank) blank
  · unfold Opening.retireUninitialized
    rw [Prog.wp_bind]
    refine wp_check (fun _ => ?_) backed
    rw [Prog.wp_bind, Prog.wp_ofExcept]
    refine ⟨fun bounds _ => ?_, fun _ _ => backed⟩
    rw [Prog.wp_bind]
    refine wp_call (fun w => ?_) backed backed
    rw [Prog.wp_bind, Prog.wp_read, Prog.wp_bind]
    refine wp_check (fun h => ?_) backed
    rw [backed.created absent] at h
    cases h.1

end Opening

section Runs

variable {python : Interpreter} {w : World}

structure World.Backed (w : World) : Prop where
  spool : Frames.Backed w.spool
  handle : ∀ self ∈ w.handle, Bound self w.spool

theorem World.backed_initial {budget : Storage.Database} : (World.initial budget).Backed where
  spool := .of_none rfl
  handle := fun self mem => by cases mem

theorem World.step_backed (backed : w.Backed) (event : Event) : (w.step python event).Backed := by
  cases event with
  | opened opening answers =>
    cases held : w.handle with
    | some self =>
      simp only [World.step, held]
      exact backed
    | none =>
      simp only [World.step, held]
      have after := Prog.run_wp (wp_openSpool_backed opening backed.spool) answers
      generalize opening.openSpool.run answers w.spool = result at after
      obtain ⟨outcome, rest, spool⟩ := result
      cases outcome with
      | done self =>
        refine ⟨after.1, ?_⟩
        intro other mem
        cases mem
        exact after.2
      | raised e => exact ⟨after, fun other mem => by cases mem⟩
      | crashed => exact ⟨after, fun other mem => by cases mem⟩
  | retired opening answers =>
    cases held : w.handle with
    | some self =>
      simp only [World.step, held]
      exact backed
    | none =>
      simp only [World.step, held]
      exact ⟨Prog.run_after (wp_retireUninitialized_backed opening backed.spool) answers,
        fun other mem => by cases mem⟩
  | called call answers =>
    cases held : w.handle with
    | none =>
      simp only [World.step, held]
      exact backed
    | some self =>
      simp only [World.step, held]
      have after := Prog.run_after (wp_exec_serves python call ⟨backed.spool, backed.handle self held⟩) answers
      refine ⟨after.1, ?_⟩
      intro other mem
      rw [mem_keepHandle mem]
      exact after.2
  | closed => exact ⟨backed.spool, fun other mem => by cases mem⟩
  | cut past rest =>
    have same : Steady w.spool { w.spool with disk := w.spool.disk.cut past rest } := ⟨⟨rfl, rfl, rfl⟩, id⟩
    exact ⟨same.backed backed.spool, fun other mem => by cases mem⟩

theorem World.run_backed (backed : w.Backed) (events : List Event) : (w.run python events).Backed := by
  induction events generalizing w with
  | nil => exact backed
  | cons event events ih => exact ih (World.step_backed backed event)

/-- The bytes of a view. -/
def bytesOf (view : Disk.View FileName UInt8) : Int := view.total fun file => file.bytes.length

/-- Before the last cleanup there is a reservation of the spool that is charged with at least as many bytes as the files
have; after it there is no file. -/
structure Covered (s : Spool) : Prop where
  charged : ∀ values ∈ s.spoolMeta, values.cleanupPending = false →
    ∃ charge ∈ s.budget.reservations, charge.reservationId = values.sourceReservation ∧
      s.disk.Always fun view => bytesOf view ≤ charge.chargedBytes
  final : ∀ values ∈ s.spoolMeta, values.cleanupPending = true → s.disk.Always fun view => view.keys = []

theorem Sound.covered {s : Spool} (sound : Sound python s) (backed : Backed s) : Covered s := by
  refine ⟨?_, ?_⟩
  · intro values mem admitting
    obtain ⟨charge, listed, identified, amount⟩ := backed.charged values mem admitting
    refine ⟨charge, listed, identified, ?_⟩
    intro view viewed
    rw [amount]
    exact (sound.journaled values mem view viewed).light
  · intro values mem pending view viewed
    have rows := backed.final values mem pending
    refine List.eq_nil_iff_forall_not_mem.mpr ?_
    intro name listed
    obtain ⟨row, there, -⟩ := (sound.journaled values mem view viewed).owned name listed
    change row ∈ s.frames.rows at there
    rw [rows] at there
    cases there

/-- In every history the storage that is charged covers the files, whatever comes back after a power cut. -/
theorem files_covered (budget : Storage.Database) (events : List Event) :
    Covered ((World.initial budget).run python events).spool := by
  have sound : World.Sound python ((World.initial budget).run python events) := World.run_sound budget events
  have backed : World.Backed ((World.initial budget).run python events) :=
    World.run_backed World.backed_initial events
  exact sound.spool.covered backed.spool

/-- What the terminal marker of `s` means for `t`. -/
def Finishes (s t : Spool) : Prop :=
  ∀ values ∈ s.spoolMeta, values.cleanupPending = true →
    (∃ later ∈ t.spoolMeta, later.cleanupPending = true) ∧ t.frames.rows = [] ∧
      t.disk.Always fun view => view.keys = []

/-- Once the terminal marker is there, it stays, and there is never a frame again. -/
theorem cleanup_final (budget : Storage.Database) (events later : List Event) :
    let w := (World.initial budget).run python events
    Finishes w.spool (w.run python later).spool := by
  intro w values mem pending
  have sound : World.Sound python w := World.run_sound budget events
  have backed : World.Backed w := World.run_backed World.backed_initial events
  obtain ⟨after, evolves⟩ := World.run_evolves sound later
  obtain ⟨last, there, -, -, still⟩ := evolves.bounds values mem
  have covered := Sound.covered after.spool (World.run_backed backed later).spool
  have rows := (World.run_backed backed later).spool.final last there (still pending)
  exact ⟨⟨last, there, still pending⟩, rows, covered.final last there (still pending)⟩

end Runs

end Reproof.Live.Frames

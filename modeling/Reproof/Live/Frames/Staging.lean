import Reproof.Live.Frames.Journaled

/-! What the spool does with its files.  Whatever fails, and wherever the process ends, the files of a frame are
written and removed under a row of its own. -/

namespace Reproof.Live.Frames

open Contracts Library

section Calls

variable {α : Type} {R : Failure → Spool → Prop} {C : Spool → Prop} {s : Spool}

theorem wp_call {Q : Answer → Spool → Prop} {e : Failure} (done : ∀ w, Q w s) (raised : R e s) (crashed : C s) :
    (call e).wp Q R C s := by
  intro w
  obtain ⟨fate, value, uuid, free, proof⟩ := w
  cases fate with
  | done => exact done _
  | failed _ => exact raised
  | crashed _ => exact crashed

theorem wp_system {Q : Unit → Spool → Prop} {f : Disk FileName UInt8 → Disk FileName UInt8}
    (done : Q () { s with disk := f s.disk }) (raised : R .os s ∧ R .os { s with disk := f s.disk })
    (crashed : C s ∧ C { s with disk := f s.disk }) : (system f).wp Q R C s := by
  unfold system
  rw [Prog.wp_bind, Prog.wp_answer]
  intro w
  rw [Prog.wp_write]
  obtain ⟨fate, value, uuid, free, proof⟩ := w
  cases fate with
  | done => exact done
  | failed applied =>
    cases applied with
    | true => exact raised.2
    | false => exact raised.1
  | crashed applied =>
    cases applied with
    | true => exact crashed.2
    | false => exact crashed.1

theorem wp_transaction {Q : Unit → Spool → Prop} {f : Spool → Spool} (done : Q () (f s)) (raised : R .database s)
    (crashed : C s ∧ C (f s)) : (commit f).wp Q R C s := fun _ => Prog.wp_commit done raised crashed

theorem wp_check {Q : Unit → Spool → Prop} {p : Prop} [Decidable p] {message : String} (met : p → Q () s)
    (refused : R (.spool message) s) : (check p message).wp Q R C s := by
  unfold check
  rw [Prog.wp_ensure]
  exact ⟨met, fun _ => refused⟩

theorem wp_closing {Q : α → Spool → Prop} {p : Control α}
    (h : p.wp (fun a t => Q a t ∧ R .os t ∧ C t) (fun e t => R e t ∧ R .os t ∧ C t) C s) : (closing p).wp Q R C s := by
  unfold closing
  rw [Prog.wp_bind, Prog.wp_rescue]
  apply Prog.wp_mono h
  · rintro a t ⟨done, raised, crashed⟩
    rw [Prog.wp_bind]
    exact wp_call (fun _ => done) raised crashed
  · rintro e t ⟨raised, closed, crashed⟩
    rw [Prog.wp_bind]
    exact wp_call (fun _ => raised) closed crashed
  · exact fun _ crashed => crashed

end Calls

section Unlinking

variable {R : Failure → Spool → Prop} {C : Spool → Prop} {s : Spool} {row : Row}

/-- `unlinkFile` leaves the directory as it is, or without the file. -/
theorem wp_unlinkFile {Q : Unit → Spool → Prop} {name : FileName}
    (kept : R .os s ∧ C s ∧ (s.disk.view.get? name = none → Q () s))
    (gone : R .os { s with disk := s.disk.unlink name } ∧ C { s with disk := s.disk.unlink name } ∧
      Q () { s with disk := s.disk.unlink name }) : (unlinkFile name).wp Q R C s := by
  unfold unlinkFile
  rw [Prog.wp_bind]
  apply wp_call _ kept.1 kept.2.1
  intro _
  rw [Prog.wp_bind, Prog.wp_read]
  split
  · exact kept.2.2 ‹_›
  · exact wp_system gone.2.2 ⟨kept.1, gone.1⟩ ⟨kept.2.1, gone.2.1⟩

theorem wp_fsyncDirectory {Q : Unit → Spool → Prop} (kept : R .os s ∧ C s)
    (synced : R .os { s with disk := s.disk.sync } ∧ C { s with disk := s.disk.sync } ∧
      Q () { s with disk := s.disk.sync }) : fsyncDirectory.wp Q R C s := by
  unfold fsyncDirectory
  rw [Prog.wp_bind]
  apply wp_call _ kept.1 kept.2
  intro _
  apply wp_closing
  exact wp_system ⟨synced.2.2, synced.1, synced.2.1⟩ ⟨⟨kept.1, kept⟩, synced.1, synced.1, synced.2.1⟩
    ⟨kept.2, synced.2.1⟩

theorem clears_unlink {name : FileName} (named : name = row.tempPath ∨ name = row.framePath) :
    Clears row s { s with disk := s.disk.unlink name } := by
  refine ⟨_, rfl, ?_, ?_⟩
  · intro other absent
    change (s.disk.view.erase name).get? other = none
    rw [Dict.get?_erase, absent, ite_self]
  · intro view viewed
    rcases List.mem_cons.mp viewed with rfl | viewed
    · refine ⟨s.disk.view, List.mem_cons_self, fun other => ?_⟩
      change (s.disk.view.erase name).get? other = _ ∨ (s.disk.view.erase name).get? other = none ∧ _
      rw [Dict.get?_erase]
      by_cases same : other = name
      · rw [if_pos same, same]
        exact .inr ⟨rfl, named⟩
      · rw [if_neg same]
        exact .inl rfl
    · exact ⟨view, viewed, fun _ => .inl rfl⟩

theorem clears_sync : Clears row s { s with disk := s.disk.sync } := by
  refine ⟨_, rfl, fun _ absent => absent, ?_⟩
  intro view viewed
  rw [List.mem_singleton.mp viewed]
  exact ⟨s.disk.view, List.mem_cons_self, fun _ => .inl rfl⟩

theorem clears_unlinkFile {name : FileName} (named : name = row.tempPath ∨ name = row.framePath) :
    Prog.Guarantees (Clears row) (unlinkFile name) := fun s =>
  wp_unlinkFile ⟨refl_of _ s, refl_of _ s, fun _ => refl_of _ s⟩
    ⟨clears_unlink named, clears_unlink named, clears_unlink named⟩

/-- No file of a row is there. -/
def Absent (row : Row) (spool : Spool) : Prop :=
  spool.disk.view.get? row.tempPath = none ∧ spool.disk.view.get? row.framePath = none

theorem Absent.sync (absent : Absent row s) : Gone row { s with disk := s.disk.sync } :=
  Disk.always_sync.mpr absent

theorem Absent.clears {t : Spool} {other : Row} (absent : Absent row s) (h : Clears other s t) : Absent row t := by
  obtain ⟨disk, rfl, gone, -⟩ := h
  exact ⟨gone _ absent.1, gone _ absent.2⟩

theorem wp_unlinkRow : (unlinkRow row).wp (fun _ t => Clears row s t ∧ Absent row t) (fun _ => Clears row s)
    (Clears row s) s := by
  unfold unlinkRow
  rw [Prog.wp_bind]
  refine Prog.wp_mono (clears_unlinkFile (.inl rfl) s) ?_ (fun _ _ h => h) fun _ h => h
  intro _ t h
  rw [Prog.wp_bind]
  refine Prog.wp_mono ((clears_unlinkFile (.inr rfl)).from_state h) ?_ (fun _ _ h => h) fun _ h => h
  intro _ u h
  rw [Prog.wp_bind, Prog.wp_read]
  exact wp_check (fun absent => ⟨h, absent⟩) h

theorem wp_cleanupRowFiles : (cleanupRowFiles row).wp
    (fun clean t => Clears row s t ∧ (clean = true → Gone row t)) (fun _ _ => False) (Clears row s) s := by
  unfold cleanupRowFiles
  rw [Prog.wp_rescue, Prog.wp_bind]
  refine Prog.wp_mono wp_unlinkRow ?_ ?_ fun _ h => h
  · rintro _ t ⟨h, absent⟩
    rw [Prog.wp_bind]
    have synced : Clears row s { t with disk := t.disk.sync } := trans_of _ h clears_sync
    exact wp_fsyncDirectory ⟨⟨h, by simp⟩, h⟩ ⟨⟨synced, by simp⟩, synced, synced, fun _ => absent.sync⟩
  · exact fun e t h => ⟨h, by simp⟩

/-- The files of several rows are removed, and the directory is written out. -/
theorem wp_unlinkRows {K : Spool → Prop} (rows before : List Row)
    (closed : ∀ row ∈ rows, ∀ t u, K t → Clears row t u → K u)
    (synced : ∀ t, K t → K { t with disk := t.disk.sync }) (h : K s) (absent : ∀ row ∈ before, Absent row s) :
    (FrameSpool.unlinkRows rows).wp (fun _ t => K t ∧ ∀ row ∈ before ++ rows, Gone row t) (fun _ => K) K s := by
  induction rows generalizing s before with
  | nil =>
    refine wp_fsyncDirectory ⟨h, h⟩ ⟨synced s h, synced s h, synced s h, ?_⟩
    intro row mem
    rw [List.append_nil] at mem
    exact (absent row mem).sync
  | cons row rows ih =>
    unfold FrameSpool.unlinkRows
    rw [Prog.wp_bind]
    refine Prog.wp_mono wp_unlinkRow ?_ (fun _ t cleared => closed row List.mem_cons_self s t h cleared)
      fun t cleared => closed row List.mem_cons_self s t h cleared
    rintro _ t ⟨cleared, gone⟩
    have next := ih (s := t) (before ++ [row])
      (fun other mem => closed other (List.mem_cons_of_mem _ mem)) (closed row List.mem_cons_self s t h cleared) (by
        intro other mem
        rcases List.mem_append.mp mem with mem | mem
        · exact (absent other mem).clears cleared
        · rw [List.mem_singleton.mp mem]
          exact gone)
    rw [List.append_assoc, List.singleton_append] at next
    exact next

end Unlinking

section Writing

variable {R : Failure → Spool → Prop} {C : Spool → Prop} {s t : Spool} {row : Row} {body : Bytes}

theorem Touches.refl (gone : Gone row s) : Touches row s s := by
  refine ⟨s.disk, rfl, fun view viewed => ⟨?_, view, viewed, fun _ _ _ => rfl⟩⟩
  obtain ⟨temp, frame⟩ := gone view viewed
  exact ⟨by simp [temp], by simp [frame], .inl temp⟩

theorem Touches.change {f : Disk.View FileName UInt8 → Disk.View FileName UInt8} (h : Touches row s t)
    (part : Partial row (f t.disk.view))
    (outside : ∀ name, name ≠ row.tempPath → name ≠ row.framePath → (f t.disk.view).get? name = t.disk.view.get? name) :
    Touches row s { t with disk := t.disk.change f } := by
  obtain ⟨disk, rfl, back⟩ := h
  refine ⟨_, rfl, ?_⟩
  intro view viewed
  rcases List.mem_cons.mp viewed with rfl | viewed
  · obtain ⟨-, past, viewed, same⟩ := back disk.view List.mem_cons_self
    refine ⟨part, past, viewed, ?_⟩
    intro name temp frame
    exact (outside name temp frame).trans (same name temp frame)
  · exact back view viewed

theorem Touches.synced (h : Touches row s t) : Touches row s { t with disk := t.disk.sync } :=
  clears_sync.trans_touches h

/-- As far as the temporary file has been written. -/
structure Draft (row : Row) (written : Bytes) (spool : Spool) : Prop where
  temp : ∃ stable, spool.disk.view.get? row.tempPath = some ⟨written, stable⟩
  frame : spool.disk.view.get? row.framePath = none

theorem partial_set {view : Disk.View FileName UInt8} {file : Disk.File UInt8} (frame : view.get? row.framePath = none)
    (small : file.bytes.length ≤ row.size) : Partial row (view.set row.tempPath file) := by
  have absent : (view.set row.tempPath file).get? row.framePath = none := by
    rw [Dict.get?_set, if_neg tempPath_ne.symm, frame]
  refine ⟨?_, ?_, .inr absent⟩
  · intro other found
    rw [Dict.get?_set_self] at found
    cases found
    exact small
  · intro other found
    rw [absent] at found
    cases found

theorem wp_writeBlocks {fuel : Nat} (written rest : Bytes) (h : Touches row s t) (draft : Draft row written t)
    (small : written.length + rest.length ≤ row.size) : (writeBlocks row.tempPath fuel rest).wp
      (fun _ u => Touches row s u ∧ Draft row (written ++ rest) u) (fun _ => Touches row s) (Touches row s) t := by
  induction fuel generalizing t written rest with
  | zero =>
    cases rest with
    | nil =>
      rw [List.append_nil]
      exact ⟨h, draft⟩
    | cons byte rest => exact h
  | succ fuel ih =>
    cases rest with
    | nil =>
      rw [List.append_nil]
      exact ⟨h, draft⟩
    | cons byte rest =>
      unfold writeBlocks
      rw [Prog.wp_bind, Prog.wp_answer]
      intro w
      dsimp only
      generalize taken : ((byte :: rest).take (1024 * 1024)).take w.value = block
      have split : block ++ (byte :: rest).drop block.length = byte :: rest := by
        rw [← taken, List.take_take, List.length_take]
        have prefixed := List.take_append_drop (min w.value (1024 * 1024)) (byte :: rest)
        by_cases le : min w.value (1024 * 1024) ≤ (byte :: rest).length
        · rwa [min_eq_left le]
        · push Not at le
          rw [min_eq_right le.le, List.drop_length, List.append_nil, List.take_of_length_le le.le]
      obtain ⟨stable, found⟩ := draft.temp
      have changed : t.disk.append row.tempPath block =
          t.disk.change fun view => view.set row.tempPath ⟨written ++ block, false⟩ := by
        simp only [Disk.append, Disk.change, found]
      have fits : (written ++ block).length ≤ row.size := by
        have lengths := congrArg List.length split
        rw [List.length_append] at lengths ⊢
        omega
      have appended : Touches row s { t with disk := t.disk.append row.tempPath block } := by
        rw [changed]
        refine h.change (partial_set draft.frame fits) ?_
        intro name temp _
        rw [Dict.get?_set, if_neg temp]
      have drafted : Draft row (written ++ block) { t with disk := t.disk.append row.tempPath block } := by
        rw [changed]
        refine ⟨⟨false, Dict.get?_set_self⟩, ?_⟩
        change (t.disk.view.set _ _).get? _ = none
        rw [Dict.get?_set, if_neg tempPath_ne.symm, draft.frame]
      rw [Prog.wp_bind, Prog.wp_write]
      have next := ih (written ++ block) ((byte :: rest).drop block.length) appended drafted (by
        have lengths := congrArg List.length split
        rw [List.length_append] at lengths ⊢
        omega)
      rw [List.append_assoc, split] at next
      cases w.fate with
      | done =>
        rw [Prog.wp_bind]
        exact wp_check (fun _ => next) appended
      | failed applied =>
        cases applied with
        | true => exact appended
        | false => exact h
      | crashed applied =>
        cases applied with
        | true => exact appended
        | false => exact h

/-- The frame file has the whole body, whatever comes back. -/
def Landed (row : Row) (body : Bytes) (spool : Spool) : Prop :=
  spool.disk.Always fun view => view.get? row.framePath = some ⟨body, true⟩

theorem wp_writeFile (gone : Gone row s) (size : body.length = row.size) : (writeFile row body).wp
    (fun _ t => Touches row s t ∧ Landed row body t) (fun _ => Touches row s) (Touches row s) s := by
  have start := Touches.refl gone
  obtain ⟨noTemp, noFrame⟩ := gone.view
  unfold writeFile
  rw [Prog.wp_bind]
  apply wp_call _ start start
  intro _
  rw [Prog.wp_bind, Prog.wp_read, Prog.wp_bind]
  refine wp_check ?_ start
  intro _
  rw [Prog.wp_bind, Prog.wp_ensure]
  refine ⟨?_, fun _ => start⟩
  intro _
  have created : Touches row s { s with disk := s.disk.create row.tempPath } := by
    refine start.change (partial_set noFrame (Nat.zero_le _)) ?_
    intro name temp _
    rw [Dict.get?_set, if_neg temp]
  have draft : Draft row [] { s with disk := s.disk.create row.tempPath } := by
    refine ⟨⟨false, Dict.get?_set_self⟩, ?_⟩
    change (s.disk.view.set _ _).get? _ = none
    rw [Dict.get?_set, if_neg tempPath_ne.symm, noFrame]
  rw [Prog.wp_bind]
  refine wp_system ?_ ⟨start, created⟩ ⟨start, created⟩
  rw [Prog.wp_bind]
  apply wp_closing
  rw [Prog.wp_bind]
  refine Prog.wp_mono (wp_writeBlocks [] body created draft (by simp [size])) ?_ (fun _ _ h => ⟨h, h, h⟩) fun _ h => h
  rintro _ t ⟨touched, draft⟩
  rw [List.nil_append] at draft
  obtain ⟨stable, found⟩ := draft.temp
  have changed : t.disk.flush row.tempPath = t.disk.change fun view => view.set row.tempPath ⟨body, true⟩ := by
    simp only [Disk.flush, Disk.change, found]
  have flushed : Touches row s { t with disk := t.disk.flush row.tempPath } := by
    rw [changed]
    refine touched.change (partial_set draft.frame size.le) ?_
    intro name temp _
    rw [Dict.get?_set, if_neg temp]
  refine wp_system ?_ ⟨⟨touched, touched, touched⟩, flushed, flushed, flushed⟩ ⟨touched, flushed⟩
  refine ⟨?_, flushed, flushed⟩
  generalize eq : ({ t with disk := t.disk.flush row.tempPath } : Spool) = u at flushed
  have whole : u.disk.view.get? row.tempPath = some ⟨body, true⟩ := by
    rw [← eq, changed]
    exact Dict.get?_set_self
  have moved : u.disk.rename row.tempPath row.framePath =
      u.disk.change fun view => (view.erase row.tempPath).set row.framePath ⟨body, true⟩ := by
    simp only [Disk.rename, Disk.change, whole]
  have there : (u.disk.rename row.tempPath row.framePath).view.get? row.framePath = some ⟨body, true⟩ := by
    rw [moved]
    exact Dict.get?_set_self
  have renamed : Touches row s { u with disk := u.disk.rename row.tempPath row.framePath } := by
    rw [moved]
    refine flushed.change ?_ ?_
    · have absent : ((u.disk.view.erase row.tempPath).set row.framePath ⟨body, true⟩).get? row.tempPath = none := by
        rw [Dict.get?_set, if_neg tempPath_ne, Dict.get?_erase, if_pos rfl]
      refine ⟨by simp [absent], ?_, .inl absent⟩
      intro file found
      rw [Dict.get?_set_self] at found
      cases found
      exact ⟨size.le, rfl⟩
    · intro name temp frame
      rw [Dict.get?_set, if_neg frame, Dict.get?_erase, if_neg temp]
  rw [Prog.wp_bind]
  refine wp_system ?_ ⟨flushed, renamed⟩ ⟨flushed, renamed⟩
  exact wp_fsyncDirectory ⟨renamed, renamed⟩
    ⟨renamed.synced, renamed.synced, renamed.synced, Disk.always_sync.mpr there⟩

end Writing

end Reproof.Live.Frames

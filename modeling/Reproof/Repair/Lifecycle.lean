import Reproof.Repair.Sections

/-! Every run of a repair journal, over crashes and restarts. -/

namespace Reproof.Repair

open Library Contracts Execution.Wire

variable (python : Interpreter)

/-- A section that the process enters, with its arguments. -/
inductive Call
  | restart (config : Config)
  | close
  | create (creation : Creation)
  | claim (identifier : String)
  | update (identifier : String) (changes : Changes)
  | finish (identifier : String) (status : Status) (reason result : Json) (attempts : Option Json)
  | cancel (identifier : String)
  | writeBlobs (identifier name : String) (blobs : BlobSet python)
  | beginSnapshotOutput (identifier name : String) (reservationBytes : Int)
  | writeSidecar (handle : Nat) (name : String) (raw : Bytes)
  | beginComplete (handle : Nat) (reference : Json)
  | endComplete (handle : Nat)
  | leaveSnapshotOutput (handle : Nat) (raised : Bool)
  | applyRetention (nowMs : Int)
  | expire (identifier : String) (nowMs : Int)

variable {python}

def Call.body : Call python → Step Unit
  | restart config => Repair.restart python config
  | close => Prog.modify fun journal => { journal with ready := false }
  | create creation => do
    let _ ← Repair.create python creation
  | claim identifier => do
    let _ ← Repair.claim python identifier
  | update identifier changes => do
    let _ ← Repair.update python identifier changes
  | finish identifier status reason result attempts => do
    let _ ← Repair.finish python identifier status reason result attempts
  | cancel identifier => do
    let _ ← Repair.cancel python identifier
  | writeBlobs identifier name blobs => Repair.writeBlobs python identifier name blobs
  | beginSnapshotOutput identifier name reservationBytes => do
    let _ ← Repair.beginSnapshotOutput python identifier name reservationBytes
  | writeSidecar handle name raw => Repair.writeSidecar python handle name raw
  | beginComplete handle reference => Repair.beginComplete handle reference
  | endComplete handle => Repair.endComplete python handle
  | leaveSnapshotOutput handle raised => Repair.leaveSnapshotOutput python handle raised
  | applyRetention nowMs => Repair.applyRetention python nowMs
  | expire identifier nowMs => Repair.expire python identifier nowMs

variable (python) in
structure Event where
  call : Call python
  answers : List Answer

/-- What a crash leaves of a journal. -/
def Journal.stop (journal : Journal) : Journal := { journal with ready := false, contexts := .empty }

def Event.apply (event : Event python) (journal : Journal) : Journal :=
  match event.call.body.run event.answers journal with
  | (.crashed, _, after) => after.stop
  | (_, _, after) => after

/-- A journal with the largest `disk_limit` it was opened with. -/
structure History where
  journal : Journal
  largest : Int

def History.fresh : History := ⟨⟨⟨0, 0⟩, false, .empty, .empty, 0⟩, 0⟩

def History.step (history : History) (event : Event python) : History :=
  let journal := event.apply history.journal
  ⟨journal, max history.largest journal.config.diskLimit⟩

def History.run (history : History) (events : List (Event python)) : History :=
  events.foldl History.step history

/-- The books of a job. -/
structure Row.Accounted (row : Row) : Prop where
  column : row.reserved = row.body.reservedBytes
  used : row.body.usedBytes = row.body.outputs.total Output.charge
  room : row.body.usedBytes ≤ row.body.reservedBytes
  cancelled : row.body.cancelRequested = true → row.body.status.Terminal → row.body.status.Cancelled

/-- What becomes of a job. -/
structure Row.Becomes (row after : Row) : Prop where
  terminal : row.body.status.Terminal → after.body.status = row.body.status
  cancelled : row.body.cancelRequested = true → after.body.cancelRequested = true
  reserved : after.reserved = row.reserved ∨ after.reserved = 0 ∧ after.body.AllExpired

namespace Journal

variable {s t u : Journal}

structure Advances (s t : Journal) : Prop where
  sane : t.Sane
  room : t.reservedTotal ≤ max s.reservedTotal t.config.diskLimit
  revised : s.Revised t

theorem Sane.advances (sane : s.Sane) : s.Advances s :=
  ⟨sane, Int.le_max_left _ _, sane.revised⟩

theorem Evolves.advances (evolves : s.Evolves t) : s.Advances t :=
  ⟨evolves.sane, by rw [evolves.config]; exact evolves.room, evolves.revised⟩

theorem Advances.stop (advances : s.Advances t) : s.Advances t.stop :=
  ⟨⟨advances.sane.rows, nofun⟩, advances.room, advances.revised⟩

end Journal

namespace Call

open Journal

variable {s : Journal}

theorem keeps_discard {p : Step α} (keeps : Keeps p) :
    Keeps (do
      let _ ← p) := fun s sane =>
  Lands.bind (keeps s sane) fun _ _ evolves _ => lands_pure evolves trivial

theorem advances (call : Call python) (sane : s.Sane) :
    call.body.wp (fun _ t => s.Advances t) (fun _ t => s.Advances t) s.Advances s := by
  have lands {p : Step Unit} (keeps : Keeps p) :
      p.wp (fun _ t => s.Advances t) (fun _ t => s.Advances t) s.Advances s :=
    Prog.wp_mono (keeps s sane) (fun _ _ h => h.1.advances) (fun _ _ h => h.advances)
      fun _ h => h.advances
  cases call with
  | restart config =>
    have weaken (t : Journal) (h : t = s ∨ (s.opened config).Evolves t) : s.Advances t := by
      obtain rfl | evolves := h
      · exact sane.advances
      · have advances := evolves.advances
        exact ⟨advances.sane, advances.room, advances.revised⟩
    exact Prog.wp_mono (restart_wp python sane) (fun _ => weaken) (fun _ => weaken) weaken
  | close => exact ⟨⟨sane.rows, sane.contexts⟩, Int.le_max_left _ _, sane.revised⟩
  | create creation => exact lands (keeps_discard (keeps_create python))
  | claim identifier => exact lands (keeps_discard (keeps_claim python))
  | update identifier changes => exact lands (keeps_discard (keeps_update python))
  | finish identifier status reason result attempts =>
    exact lands (keeps_discard (keeps_finish python))
  | cancel identifier => exact lands (keeps_discard (keeps_cancel python))
  | writeBlobs identifier name blobs => exact lands (keeps_writeBlobs python)
  | beginSnapshotOutput identifier name reservationBytes =>
    exact lands (keeps_discard (keeps_beginSnapshotOutput python))
  | writeSidecar handle name raw => exact lands (keeps_writeSidecar python)
  | beginComplete handle reference => exact lands keeps_beginComplete
  | endComplete handle => exact lands (keeps_endComplete python)
  | leaveSnapshotOutput handle raised => exact lands (keeps_leaveSnapshotOutput python)
  | applyRetention nowMs => exact lands (keeps_applyRetention python)
  | expire identifier nowMs => exact lands (keeps_expire python)

end Call

theorem Event.advances (event : Event python) {s : Journal} (sane : s.Sane) :
    s.Advances (event.apply s) := by
  have after := Prog.run_wp (event.call.advances sane) event.answers
  rw [Event.apply]
  revert after
  cases event.call.body.run event.answers s with
  | mk outcome rest =>
    cases outcome with
    | done => exact id
    | raised => exact id
    | crashed => exact fun advances => advances.stop

namespace History

structure Sane (history : History) : Prop where
  journal : history.journal.Sane
  room : history.journal.reservedTotal ≤ history.largest

theorem fresh_sane : fresh.Sane where
  journal := ⟨fun _ _ found => (nomatch found), fun _ _ found => (nomatch found)⟩
  room := Int.le_refl 0

theorem Sane.step {history : History} (sane : history.Sane) (event : Event python) :
    (history.step event).Sane ∧ history.journal.Revised (history.step event).journal := by
  have advances := event.advances sane.journal
  refine ⟨⟨advances.sane, ?_⟩, advances.revised⟩
  have before := sane.room
  have after := advances.room
  change (event.apply history.journal).reservedTotal ≤
    max history.largest (event.apply history.journal).config.diskLimit
  omega

theorem Sane.run {history : History} (sane : history.Sane) (events : List (Event python)) :
    (history.run events).Sane ∧ history.journal.Revised (history.run events).journal := by
  induction events generalizing history with
  | nil => exact ⟨sane, sane.journal.revised⟩
  | cons event events ih =>
    obtain ⟨stepped, revised⟩ := sane.step event
    obtain ⟨ran, revised'⟩ := ih stepped
    exact ⟨ran, revised.trans revised'⟩

end History

theorem Document.Revises.becomes {row after : Row} (revises : row.body.Revises after.body)
    (before : row.reserved = row.body.reservedBytes) (column : after.reserved = after.body.reservedBytes) :
    row.Becomes after where
  terminal := revises.terminal
  cancelled := revises.cancelled
  reserved := by
    obtain same | zero := revises.reserved
    · exact .inl (by rw [column, same, before])
    · exact .inr ⟨column.trans zero, (revises.sane.dropped zero).2⟩

/-- The books of every job at every point of a run, and what later sections make of the job. -/
theorem jobs_accounted (events later : List (Event python)) :
    let before := History.fresh.run events
    let after := before.run later
    (∀ id row, after.journal.rows.get? id = some row → row.Accounted) ∧
      after.journal.reservedTotal ≤ after.largest ∧
      ∀ id row, before.journal.rows.get? id = some row →
        ∃ row', after.journal.rows.get? id = some row' ∧ row.Becomes row' := by
  intro before after
  have started := (History.fresh_sane.run events).1
  obtain ⟨ended, revised⟩ := started.run later
  refine ⟨?_, ended.room, ?_⟩
  · intro id row found
    obtain ⟨_, column, body⟩ := ended.journal.rows id row found
    exact ⟨column, body.used, body.room, body.cancelled⟩
  · intro id row found
    obtain ⟨row', found', revises⟩ := revised id row found
    exact ⟨row', found', revises.becomes (started.journal.rows id row found).2.1
      (ended.journal.rows id row' found').2.1⟩

/-- An interpreter whose tables and digests say nothing. -/
def plain : Interpreter where
  lower := id
  casefold := id
  nfc := id
  float := String.ofList
  depth := 8
  sha256 _ := ""
  hmac _ _ := ""

/-- A job is reserved. -/
def reserving : List (Event plain) :=
  [⟨.restart ⟨8, 2⟩, []⟩,
    ⟨.create ⟨"project", "owner", "issue", "request",
      "0000000000000000000000000000000000000000000000000000000000000000", 8, none, none⟩,
      [⟨.done, true, 0, "00000000000000000000000000000000", 1⟩]⟩]

theorem updateRow_total {document : Document} {s : Journal} :
    (s.updateRow document false).config = s.config ∧
      (s.updateRow document false).reservedTotal = s.reservedTotal := by
  cases listed : s.rows.get? document.id with
  | none => simp only [Journal.updateRow, listed, and_self]
  | some row =>
    simp only [Journal.updateRow, listed]
    exact ⟨rfl, (Dict.total_set listed).trans (Int.sub_add_cancel _ _)⟩

theorem run_put_one {python : Interpreter} {document : Document} {raw : Bytes} {s : Journal}
    (written : canonical python document.json = some raw) (room : raw.length ≤ 256 * 1024) :
    (put python document false).run [] s = (.done (), [], s.updateRow document false) := by
  have usual : (default : Answer).fate = .done := rfl
  simp [put, written, orFail, Prog.ofExcept, require, room, usual, Prog.commit]

/-- A journal whose one job waits keeps what it has reserved when it is opened again. -/
theorem run_restart {python : Interpreter} {config : Config} {document : Document} {raw : Bytes} {s : Journal}
    (limit : 0 < config.diskLimit ∧ config.diskLimit ≤ 512 * 1024 ^ 3)
    (jobs : 1 ≤ config.maxJobs ∧ config.maxJobs ≤ 1024)
    (bodies : s.rows.values.map Row.body = [document]) (status : ¬ document.status.Terminal)
    (phase : ¬ document.phase.Executing)
    (written : canonical python (document.close .interrupted (.str "process_restarted")).json = some raw)
    (room : raw.length ≤ 256 * 1024) :
    ∃ after, (restart python config).run [] s = (.done (), [], after) ∧ after.ready = true ∧
      after.config = config ∧ after.reservedTotal = s.reservedTotal := by
  have usual : (default : Answer).ok = true := rfl
  have small : config.diskLimit ≤ 549755813888 := limit.2
  have total := @updateRow_total (document.close .interrupted (.str "process_restarted"))
    { s with config, ready := false, contexts := .empty }
  refine ⟨{ ({ s with config, ready := false, contexts := .empty } : Journal).updateRow
    (document.close .interrupted (.str "process_restarted")) false with ready := true }, ?_, rfl, total.1, total.2⟩
  simp [restart, require, files, each, recover, usual, limit.1, small, jobs, bodies, status, phase,
    run_put_one written room]

/-- A journal whose one job waits is opened again with less. -/
theorem History.reopened {history : History} (total : history.journal.reservedTotal = 8)
    (one : (history.journal.rows.values.map Row.body).length = 1)
    (waits : ∀ document ∈ history.journal.rows.values.map Row.body,
      ¬ document.status.Terminal ∧ ¬ document.phase.Executing ∧
        ∃ raw ∈ canonical plain (document.close .interrupted (.str "process_restarted")).json,
          raw.length ≤ 256 * 1024) :
    (history.step (⟨.restart ⟨4, 2⟩, []⟩ : Event plain)).journal.ready = true ∧
      (history.step (⟨.restart ⟨4, 2⟩, []⟩ : Event plain)).journal.config.diskLimit <
        (history.step (⟨.restart ⟨4, 2⟩, []⟩ : Event plain)).journal.reservedTotal := by
  obtain ⟨document, bodies⟩ := List.length_eq_one_iff.mp one
  obtain ⟨status, phase, raw, written, room⟩ := waits document (by rw [bodies]; exact List.mem_singleton_self _)
  obtain ⟨after, opened, ready, config, kept⟩ :=
    @run_restart plain ⟨4, 2⟩ _ _ _ (by decide) (by decide) bodies status phase written room
  have journal : (history.step (⟨.restart ⟨4, 2⟩, []⟩ : Event plain)).journal = after := by
    rw [History.step, Event.apply, Call.body, opened]
  rw [journal, config, kept, total]
  exact ⟨ready, by decide⟩

theorem reserving_waits :
    let journal := (History.fresh.run reserving).journal
    journal.reservedTotal = 8 ∧ (journal.rows.values.map Row.body).length = 1 ∧
      ∀ document ∈ journal.rows.values.map Row.body, ¬ document.status.Terminal ∧ ¬ document.phase.Executing ∧
        ∃ raw ∈ canonical plain (document.close .interrupted (.str "process_restarted")).json,
          raw.length ≤ 256 * 1024 := by
  simp only [canonical, dumps_eq, Json.write_eq]
  decide +kernel

/-- The sum of the reservations over the present limit. -/
theorem smaller_over : ¬ ∀ events : List (Event plain),
    (History.fresh.run events).journal.ready = true →
    (History.fresh.run events).journal.reservedTotal ≤
      (History.fresh.run events).journal.config.diskLimit := by
  obtain ⟨total, one, waits⟩ := reserving_waits
  have reopened := History.reopened total one waits
  intro all
  have bound := all (reserving ++ [⟨.restart ⟨4, 2⟩, []⟩])
  rw [History.run, List.foldl_concat, ← History.run] at bound
  exact absurd (bound reopened.1) (Int.not_le.mpr reopened.2)

end Reproof.Repair

import Reproof.Repair.Attended

/-! Every history of the repair jobs: the slots, and the jobs that nobody runs. -/

namespace Reproof.Repair

open Library Contracts Execution.Wire ProjectRepairJobs

section Harmless

variable (python : Interpreter)

/-- Nothing stops `finish` from closing the job. -/
structure ProjectRepairJobs.Closable (jobs : ProjectRepairJobs) (id : String) (status : Status)
    (clock written : Answer) : Prop where
  ready : jobs.journal.ready = true
  allowed : ∀ row, jobs.journal.rows.get? id = some row →
    row.body.cancelRequested = false ∨ status = .cancelled
  fits : ∀ row, jobs.journal.rows.get? id = some row →
    (row.body.finished status (.str "repair_unavailable") unverified clock.nowMs).Fits python
  landed : ∀ applied, written.fate ≠ .failed applied

variable {python}

/-- The last calls of a thread for its job do not fail, and it is not cut short. -/
def Move.Harmless (jobs : ProjectRepairJobs) (id : String) : Stage → Move python → Prop
  | .failing, .look read => read.ok = true ∧ jobs.journal.ready = true
  | .finishing cancelled, .settle clock written =>
    jobs.Closable python id (if cancelled = true then .cancelled else .failed) clock written
  | .leaving, .sever => True
  | .returning, .sever => True
  | _, .sever => False
  | _, _ => True

/-- No call fails that nothing makes up for: the write of a job whose directory is not synced, the
binding of a new job, the end of a job whose thread does not start, and the end of a job whose
thread gives up. -/
def Act.Harmless (jobs : ProjectRepairJobs) : Act python → Prop
  | .register _ made inserted synced written _ => ∀ creation,
    jobs.starting = some (.entered creation false) → inserted.fate = .done → synced.ok = false →
      ((creation.document ("repair_" ++ made.uuid) made.nowMs).close .quarantined
        (.str "repair_storage")).Fits python ∧ ∀ applied, written.fate ≠ .failed applied
  | .bind ok => ∀ id, jobs.starting = some (.created id) → ok = true
  | .launch started clock written => ∀ id, jobs.starting = some (.bound id) →
    started = true ∨ jobs.Closable python id .failed clock written
  | .work id move => ∀ stage, jobs.threads.get? id = some stage →
    jobs.journal.Ended id ∨ move.Harmless jobs id stage
  | _ => True

end Harmless

section Steps

variable {python : Interpreter} {jobs after : ProjectRepairJobs} {id : String}

/-- The end of a job that the condition lets be written. -/
theorem ProjectRepairJobs.Closable.finished {status : Status} {clock written : Answer}
    (closable : jobs.Closable python id status clock written) (ending : status.Terminal)
    (named : isIdentifier id) {row : Row} (found : jobs.journal.rows.get? id = some row)
    (active : ¬ row.body.status.Terminal) (failure : Failure) :
    ((finishUnavailable python id status).run [clock, written] jobs.journal).1 ≠ .raised failure :=
  run_finish python closable.ready named found active ending
    ((closable.allowed row found).imp_right Or.inl) (closable.fits row found) closable.landed failure

/-- A thread or a `start` that has given its job up has ended it, if it could. -/
theorem ProjectRepairJobs.Sound.finishes (sound : jobs.Sound) {status : Status}
    {clock written : Answer} {next : Except Failure Document → ProjectRepairJobs → ProjectRepairJobs}
    (ending : status.Terminal) (named : isIdentifier id) (there : id ∈ jobs.journal.rows.keys)
    (eq : jobs.inJournal (finishUnavailable python id status) [clock, written] next = some after) :
    ∃ result t, jobs.journal.Follows t ∧ after = next result { jobs with journal := t } ∧
      (jobs.journal.Ended id ∨ jobs.Closable python id status clock written → t.Ended id) := by
  have tracks : Tracks jobs.journal (fun _ t => t.Ended id) (finishUnavailable python id status)
      jobs.journal := tracks_finish python sound.grounded.filed
  have wp := Prog.run_wp tracks [clock, written]
  obtain ⟨a, rest, t, ran, same⟩ | ⟨failure, rest, t, ran, same⟩ := inJournal_cases eq
  · rw [ran] at wp
    exact ⟨_, t, wp.1, same, fun _ => wp.2⟩
  · rw [ran] at wp
    refine ⟨_, t, wp, same, fun condition => ?_⟩
    obtain ended | closable := condition
    · exact wp.ended ended
    · obtain ⟨row, found⟩ := Dict.mem_keys.mp there
      by_cases active : row.body.status.Terminal
      · exact wp.ended ⟨row, found, active⟩
      · exact absurd (congrArg Prod.fst ran) (closable.finished ending named found active failure)

theorem claimJob_wp {s : Journal} (filed : s.Filed) :
    (claimJob python id).wp
      (fun claimed t => if claimed = true then s.Claims t id else
        t = s ∧ ∀ row, s.rows.get? id = some row → row.body.status ≠ .created)
      (fun _ t => t = s) (fun _ => True) s := by
  rw [claimJob, Prog.wp_bind]
  refine Prog.wp_mono (claim_wp python filed) (fun claimed t h => ?_) (fun _ _ h => h) fun _ h => h
  cases claimed with
  | true => exact h
  | false =>
    obtain ⟨rfl, unclaimed⟩ := h
    exact reads_look.wp_bind (fun _ => rfl) trivial fun _ _ => ⟨rfl, unclaimed⟩

theorem Journal.Claims.get? {s t : Journal} (claims : s.Claims t id) {other : String} {row : Row}
    (found : t.rows.get? other = some row) :
    ∃ row', s.rows.get? other = some row' ∧ row.body.id = row'.body.id ∧
      row.body.key = row'.body.key := by
  obtain ⟨old, new, found₀, found', same, key, _, _⟩ := claims.claimed
  by_cases here : other = id
  · subst here
    cases found.symm.trans found'
    exact ⟨old, found₀, same, key⟩
  · rw [claims.others other here] at found
    exact ⟨row, found, rfl, rfl⟩

theorem Journal.Claims.mem {s t : Journal} (claims : s.Claims t id) {other : String}
    (listed : other ∈ s.rows.keys) : other ∈ t.rows.keys := by
  obtain ⟨_, new, _, found', _⟩ := claims.claimed
  by_cases here : other = id
  · exact Dict.mem_keys.mpr ⟨new, by rw [here]; exact found'⟩
  · obtain ⟨row, found⟩ := Dict.mem_keys.mp listed
    exact Dict.mem_keys.mpr ⟨row, (claims.others other here).trans found⟩

theorem Journal.Claims.known_iff {s t : Journal} (claims : s.Claims t id) {creation : Creation} :
    t.Known creation ↔ s.Known creation := by
  constructor
  · rintro ⟨other, row, found, same⟩
    obtain ⟨row', found', _, key⟩ := claims.get? found
    exact ⟨other, row', found', key.symm.trans same⟩
  · rintro ⟨other, row, found, same⟩
    obtain ⟨row', found'⟩ := Dict.mem_keys.mp (claims.mem (Dict.mem_keys.mpr ⟨row, found⟩))
    obtain ⟨row'', found'', _, key⟩ := claims.get? found'
    cases found.symm.trans found''
    exact ⟨other, row', found', key.trans same⟩

/-- A thread claims its job. -/
theorem ProjectRepairJobs.Sound.claims (sound : jobs.Sound) {t : Journal}
    (claims : jobs.journal.Claims t id) (found : jobs.threads.get? id = some .pinning) {kept : Prop} :
    Steps kept jobs ({ jobs with journal := t }.setStage id .executing) := by
  have listed : id ∈ jobs.threads.keys := Dict.mem_keys.mpr ⟨_, found⟩
  have keys : (jobs.threads.set id .executing).keys = jobs.threads.keys :=
    Dict.keys_set.trans (if_pos listed)
  have new (other : String) (new : New jobs.journal jobs.threads other) :
      New t (jobs.threads.set id .executing) other := by
    have apart : other ≠ id := fun same => new.alone (by rw [same]; exact listed)
    refine ⟨claims.mem new.there, fun mem => new.alone (keys ▸ mem), new.named, fun row there => ?_⟩
    exact new.waits row ((claims.others other apart).symm.trans there)
  refine ⟨⟨⟨?_, ?_, ?_⟩, ?_, ?_⟩, ?_, rfl⟩
  · intro other row there
    obtain ⟨row', there', same, _⟩ := claims.get? there
    exact same.trans (sound.grounded.filed other row' there')
  · intro other mem
    obtain ⟨there, named⟩ := sound.grounded.known other (keys ▸ mem)
    exact ⟨claims.mem there, named⟩
  · intro other pinning
    obtain ⟨_, same⟩ | ⟨apart, pinning⟩ := Dict.get?_set_some pinning
    · cases same
    · intro row there
      exact sound.grounded.waiting other pinning row ((claims.others other apart).symm.trans there)
  · intro starting there
    have before := sound.starting starting there
    cases starting with
    | entered creation existing => exact Iff.trans before claims.known_iff.symm
    | created other => exact new other before
    | bound other => exact new other before
  · change jobs.slots + (jobs.threads.set id .executing).keys.length + jobs.held = jobs.maxJobs
    rw [keys]
    exact sound.slots
  · intro _ attended other row there active
    by_cases here : other = id
    · subst here
      exact .inl ⟨_, Dict.get?_set_self, by decide⟩
    · have there' := (claims.others other here).symm.trans there
      obtain ⟨stage, found', going⟩ | started := attended other row there' active
      · exact .inl ⟨stage, (Dict.get?_set.trans (if_neg here)).trans found', going⟩
      · exact .inr started

/-- A section of the journal, and where it takes the thread. -/
theorem inJournal_steps {p : Step α} {answers : List Answer}
    {Q : α → Journal → Prop} {next : Except Failure α → ProjectRepairJobs → ProjectRepairJobs}
    {kept : Prop} (tracks : Tracks jobs.journal Q p jobs.journal)
    (eq : jobs.inJournal p answers next = some after)
    (done : ∀ a t, jobs.journal.Follows t → Q a t →
      Steps kept jobs (next (.ok a) { jobs with journal := t }))
    (raised : ∀ failure t, jobs.journal.Follows t →
      Steps kept jobs (next (.error failure) { jobs with journal := t })) : Steps kept jobs after := by
  obtain ⟨a, t, reached, rfl⟩ | ⟨failure, t, follows, rfl⟩ := inJournal_wp tracks eq
  · exact done a t reached.1 reached.2
  · exact raised failure t follows

/-- What `look` finds is the row, and it fails only with the database. -/
theorem look_cases {read : Answer} {next : Except Failure Document → ProjectRepairJobs → ProjectRepairJobs}
    (eq : jobs.inJournal (look id) [read] next = some after) (named : isIdentifier id)
    (there : id ∈ jobs.journal.rows.keys) :
    (∃ row, jobs.journal.rows.get? id = some row ∧ after = next (.ok row.body) jobs) ∨
      ∃ failure, ¬ (read.ok = true ∧ jobs.journal.ready = true) ∧ after = next (.error failure) jobs := by
  obtain ⟨row, found⟩ := Dict.mem_keys.mp there
  have ran : (look id).run [read] jobs.journal =
      if read.ok = true ∧ jobs.journal.ready = true then (.done row.body, [], jobs.journal)
      else (.raised (if read.ok = true then .repair "repair_storage" else .os), [], jobs.journal) := by
    cases fine : read.ok with
    | false => simp [look, files, fine]
    | true =>
      cases ready : jobs.journal.ready with
      | false => simp [look, files, get, require, fine, ready, named]
      | true => simp [look, files, get, require, fine, ready, named, found]
  obtain ⟨a, rest, t, run, same⟩ | ⟨failure, rest, t, run, same⟩ := inJournal_cases eq
  · rw [ran] at run
    by_cases fine : read.ok = true ∧ jobs.journal.ready = true
    · rw [if_pos fine] at run
      cases run
      exact .inl ⟨row, found, same⟩
    · rw [if_neg fine] at run
      cases run
  · rw [ran] at run
    by_cases fine : read.ok = true ∧ jobs.journal.ready = true
    · rw [if_pos fine] at run
      cases run
    · rw [if_neg fine] at run
      cases run
      exact .inr ⟨_, fine, same⟩

theorem ProjectRepairJobs.held_of_none (free : jobs.starting = none) : jobs.held = 0 := by
  rw [held, free]

theorem ProjectRepairJobs.Started.of_none (started : jobs.Started id)
    (free : jobs.starting = none) : False :=
  started.elim (fun h => nomatch free.symm.trans h) fun h => nomatch free.symm.trans h

theorem ProjectRepairJobs.Sound.work (sound : jobs.Sound) {stage : Stage} {move : Move python}
    (found : jobs.threads.get? id = some stage) (eq : jobs.work python id stage move = some after) :
    Steps (jobs.journal.Ended id ∨ move.Harmless jobs id stage) jobs after := by
  have listed : id ∈ jobs.threads.keys := Dict.mem_keys.mpr ⟨stage, found⟩
  obtain ⟨there, named⟩ := sound.grounded.known id listed
  have filed := sound.grounded.filed
  have idle {move : Move python} (same : some jobs = some after) :
      Steps (jobs.journal.Ended id ∨ move.Harmless jobs id stage) jobs after := by
    cases same
    exact sound.refl
  cases stage with
  | pinning =>
    cases move with
    | fail =>
      cases eq
      exact sound.move found (by decide) fun _ => .inl (by decide)
    | claim answers =>
      rw [ProjectRepairJobs.work] at eq
      obtain ⟨claimed, t, reached, rfl⟩ | ⟨failure, t, rfl, rfl⟩ :=
        inJournal_wp (claimJob_wp filed) eq
      · cases claimed with
        | true => exact sound.claims reached found
        | false =>
          obtain ⟨rfl, unclaimed⟩ := reached
          refine sound.move found (by decide) fun _ => .inr ?_
          obtain ⟨row, found'⟩ := Dict.mem_keys.mp there
          have waits := sound.grounded.waiting id found row found'
          exact ⟨row, found', waits.resolve_left (unclaimed row found')⟩
      · exact sound.move found (by decide) fun _ => .inl (by decide)
    | sever =>
      cases eq
      exact sound.move found (by decide) fun kept => .inr (kept.resolve_right not_false)
    | call | raise | finish | look | cancel | discard | settle | leave => exact idle eq
  | executing =>
    cases move with
    | call call answers =>
      rw [ProjectRepairJobs.work] at eq
      split_ifs at eq with within
      · refine inJournal_steps (within.ends python jobs.journal filed) eq ?_ ?_
        · exact fun _ t follows _ => sound.follow follows
        · exact fun _ t follows => sound.moved follows found (by decide) fun _ => .inl (by decide)
      · exact idle eq
    | raise caught =>
      cases eq
      refine sound.move found ?_ fun _ => .inl ?_
      · cases caught <;> decide
      · cases caught <;> decide
    | finish status reason result attempts answers =>
      rw [ProjectRepairJobs.work] at eq
      refine inJournal_steps (tracks_finish python filed) eq ?_ ?_
      · exact fun _ t follows ended => sound.moved follows found (by decide) fun _ => .inr ended
      · exact fun _ t follows => sound.moved follows found (by decide) fun _ => .inl (by decide)
    | sever =>
      cases eq
      exact sound.move found (by decide) fun kept => .inr (kept.resolve_right not_false)
    | fail | claim | look | cancel | discard | settle | leave => exact idle eq
  | handling =>
    cases move with
    | look read =>
      rw [ProjectRepairJobs.work] at eq
      obtain ⟨row, found', rfl⟩ | ⟨failure, _, rfl⟩ := look_cases eq named there
      · by_cases ending : row.body.status.Terminal
        · refine sound.move found (by simp [ending]) fun _ => .inr ⟨row, found', ending⟩
        · refine sound.move found (by simp [ending]) fun _ => .inl ?_
          rw [if_neg ending]
          decide
      · exact sound.move found (by decide) fun _ => .inl (by decide)
    | sever =>
      cases eq
      exact sound.move found (by decide) fun kept => .inr (kept.resolve_right not_false)
    | fail | claim | call | raise | finish | cancel | discard | settle | leave => exact idle eq
  | handled =>
    cases move with
    | raise caught =>
      cases eq
      exact sound.move found (by decide) fun _ => .inl (by decide)
    | cancel answers =>
      rw [ProjectRepairJobs.work] at eq
      refine inJournal_steps (ends_cancel python jobs.journal filed) eq ?_ ?_
      · exact fun _ t follows _ => sound.follow follows
      · exact fun _ t follows => sound.moved follows found (by decide) fun _ => .inl (by decide)
    | finish status reason result attempts answers =>
      rw [ProjectRepairJobs.work] at eq
      refine inJournal_steps (tracks_finish python filed) eq ?_ ?_
      · exact fun _ t follows ended => sound.moved follows found (by decide) fun _ => .inr ended
      · exact fun _ t follows => sound.moved follows found (by decide) fun _ => .inl (by decide)
    | sever =>
      cases eq
      exact sound.move found (by decide) fun kept => .inr (kept.resolve_right not_false)
    | fail | claim | call | look | discard | settle | leave => exact idle eq
  | returning =>
    cases move with
    | discard ok =>
      cases eq
      refine (sound.move found ?_ fun kept => .inr ?_).given
      · cases ok <;> decide
      · exact kept.2.ended sound found (by decide)
    | sever =>
      cases eq
      refine (sound.move found (by decide) fun kept => .inr ?_).given
      exact kept.2.ended sound found (by decide)
    | fail | claim | call | raise | finish | look | cancel | settle | leave => exact idle eq
  | failing =>
    cases move with
    | look read =>
      rw [ProjectRepairJobs.work] at eq
      obtain ⟨row, found', rfl⟩ | ⟨failure, broken, rfl⟩ := look_cases eq named there
      · by_cases ending : row.body.status.Terminal
        · refine sound.move found (by simp [ending]) fun _ => .inr ⟨row, found', ending⟩
        · refine sound.move found (by simp [ending]) fun _ => .inl ?_
          rw [if_neg ending]
          exact ⟨nofun, nofun⟩
      · exact sound.move found (by decide) fun kept => .inr (kept.resolve_right broken)
    | sever =>
      cases eq
      exact sound.move found (by decide) fun kept => .inr (kept.resolve_right not_false)
    | fail | claim | call | raise | finish | cancel | discard | settle | leave => exact idle eq
  | finishing cancelled =>
    cases move with
    | settle clock written =>
      rw [ProjectRepairJobs.work] at eq
      have ending : (if cancelled = true then Status.cancelled else .failed).Terminal := by
        cases cancelled <;> decide
      obtain ⟨result, t, follows, rfl, ended⟩ := sound.finishes ending named there eq
      exact sound.moved follows found (by decide) fun kept => .inr (ended kept)
    | sever =>
      cases eq
      exact sound.move found (by simp) fun kept => .inr (kept.resolve_right not_false)
    | fail | claim | call | raise | finish | look | cancel | discard | leave => exact idle eq
  | leaving =>
    cases move with
    | leave =>
      rw [ProjectRepairJobs.work] at eq
      cases free : jobs.starting with
      | some starting =>
        rw [free] at eq
        exact idle eq
      | none =>
        rw [free] at eq
        cases eq
        refine ⟨⟨sound.grounded.erase, ?_, ?_⟩, fun _ attended => ?_, rfl⟩
        · exact fun _ there => nomatch there
        · have slots := sound.slots
          have fewer := Dict.length_keys_erase listed
          rw [held_of_none free] at slots
          change jobs.slots + 1 + (jobs.threads.erase id).keys.length + 0 = jobs.maxJobs
          omega
        · obtain ⟨row', there', ending⟩ := attended.ended sound found (by decide)
          intro other row there active
          by_cases here : other = id
          · subst here
            cases there.symm.trans there'
            exact absurd ending active
          · obtain ⟨stage, found', going⟩ | started := attended other row there active
            · exact .inl ⟨stage, (Dict.get?_erase.trans (if_neg here)).trans found', going⟩
            · exact (started.of_none free).elim
    | fail | claim | call | raise | finish | look | cancel | discard | settle | sever => exact idle eq

/-- A `start` that gives up, with no job of its own that has not ended. -/
theorem ProjectRepairJobs.Sound.abandon {t : Journal} (sound : jobs.Sound)
    (grounded : Grounded t jobs.threads) {kept : Prop}
    (rows : kept → jobs.Attended → ∀ id row, t.rows.get? id = some row → ¬ row.body.status.Terminal →
      ∃ stage, jobs.threads.get? id = some stage ∧ stage.Active) :
    Steps kept jobs ({ jobs with journal := t }.abandon) where
  sound := ⟨grounded, (fun _ there => nomatch there), by
    have slots := sound.slots
    change jobs.slots + jobs.held + jobs.threads.keys.length + 0 = jobs.maxJobs
    omega⟩
  attended h attended id row found active := .inl (rows h attended id row found active)
  most := rfl

theorem create_known {s : Journal} {creation : Creation} (known : s.Known creation) :
    Reads s (fun _ => True) (create python creation) := by
  refine reads_require.bind fun _ _ => reads_read.bind fun journal same => ?_
  subst same
  refine reads_require.bind fun _ _ => reads_require.bind fun _ _ => ?_
  refine reads_require.bind fun _ _ => reads_require.bind fun _ _ => ?_
  obtain ⟨body, found⟩ := Option.isSome_iff_exists.mp (Journal.find_isSome.mpr known)
  rw [found]
  exact reads_require.bind fun _ _ => reads_pure trivial

/-- A repetition changes nothing, and gives its lock back. -/
theorem ProjectRepairJobs.Sound.repeats (sound : jobs.Sound) {creation : Creation} {checked : Bool}
    {answers : List Answer} {kept : Prop} (starting : jobs.starting = some (.entered creation true))
    {next : Except Failure Document → ProjectRepairJobs → ProjectRepairJobs}
    (gives : ∀ result jobs, next result jobs = jobs.abandon)
    (eq : jobs.inJournal (createJob python checked creation) answers next = some after) :
    Steps kept jobs after := by
  have known : jobs.journal.Known creation := (sound.starting _ starting).mp rfl
  have reads : Reads jobs.journal (fun _ => True) (createJob python checked creation) :=
    reads_require.bind fun _ _ => create_known known
  have given : Steps kept jobs jobs.abandon := by
    refine sound.abandon sound.grounded fun _ attended id row found active => ?_
    refine (attended id row found active).resolve_right fun started => ?_
    rw [Started, starting] at started
    exact started.elim (fun h => nomatch h) fun h => nomatch h
  obtain ⟨_, t, ⟨rfl, _⟩, rfl⟩ | ⟨_, t, rfl, rfl⟩ := inJournal_wp reads eq
  · rw [gives]
    exact given
  · rw [gives]
    exact given

theorem ProjectRepairJobs.Attended.running (attended : jobs.Attended) {creation : Creation}
    (starting : jobs.starting = some (.entered creation false)) {row : Row} (found : jobs.journal.rows.get? id = some row) (active : ¬ row.body.status.Terminal) :
    ∃ stage, jobs.threads.get? id = some stage ∧ stage.Active := by
  refine (attended id row found active).resolve_right fun started => ?_
  rw [Started, starting] at started
  exact started.elim (fun h => nomatch h) fun h => nomatch h

theorem ProjectRepairJobs.Sound.registers (sound : jobs.Sound) {creation : Creation} {checked : Bool}
    {made inserted synced written : Answer} (hex : isIdentifier ("repair_" ++ made.uuid))
    (starting : jobs.starting = some (.entered creation false))
    {next : Except Failure Document → ProjectRepairJobs → ProjectRepairJobs}
    (creates : ∀ document jobs, next (.ok document) jobs =
      { jobs with starting := some (.created document.id) })
    (gives : ∀ failure jobs, next (.error failure) jobs = jobs.abandon)
    (eq : jobs.inJournal (createJob python checked creation) [made, inserted, synced, written] next =
      some after) :
    Steps ((Act.register checked made inserted synced written hex : Act python).Harmless jobs)
      jobs after := by
  have absent : jobs.journal.find creation = none := by
    have unknown := (sound.starting _ starting).not.mp (by decide)
    exact Option.not_isSome_iff_eq_none.mp fun found => unknown (Journal.find_isSome.mp found)
  have ran : creation.Made python jobs.journal made inserted synced written
      ((createJob python checked creation).run [made, inserted, synced, written] jobs.journal) :=
    Prog.run_ensure_bind (.inl rfl) fun _ => run_create python absent
  have kept {id : String} {body : Document} {t : Journal} (added : jobs.journal.Adds t id body)
      (attended : jobs.Attended) {other : String} {row : Row} (found : t.rows.get? other = some row)
      (active : ¬ row.body.status.Terminal) :
      other = id ∧ row.body = body ∨ ∃ stage, jobs.threads.get? other = some stage ∧ stage.Active := by
    obtain new | ⟨_, found⟩ := added.cases found
    · exact .inl new
    · exact .inr (attended.running starting found active)
  obtain ⟨document, rest, t, run, rfl⟩ | ⟨failure, rest, t, run, rfl⟩ := inJournal_cases eq
  · rw [run] at ran
    obtain ⟨rfl, added⟩ := ran
    rw [creates]
    refine ⟨⟨sound.grounded.adds added rfl, ?_, ?_⟩, fun _ attended => ?_, rfl⟩
    · rintro _ ⟨⟩
      refine ⟨added.mem, fun listed => added.new (sound.grounded.known _ listed).1, hex, ?_⟩
      intro row found
      obtain ⟨_, same⟩ | ⟨old, _⟩ := added.cases found
      · rw [same]
        exact .inl rfl
      · exact absurd old added.new
    · have slots := sound.slots
      rw [held, starting] at slots
      exact slots
    · intro other row found active
      obtain ⟨rfl, _⟩ | running := kept added attended found active
      · exact .inr (.inl rfl)
      · exact .inl running
  · rw [run] at ran
    rw [gives]
    obtain same | ⟨body, added, landed, unsynced, left⟩ := ran
    · have follows : jobs.journal.Follows t := .of_rows same
      refine sound.abandon (sound.grounded.follow follows) fun _ attended id row found active => ?_
      rw [same] at found
      exact attended.running starting found active
    · have named : body.id = "repair_" ++ made.uuid := by
        obtain rfl | ⟨rfl, _⟩ := left
        · rfl
        · rfl
      refine sound.abandon (sound.grounded.adds added named) fun harmless attended id row found active => ?_
      obtain ⟨_, same⟩ | running := kept added attended found active
      · obtain ⟨fits, fate⟩ := harmless creation starting landed unsynced
        obtain rfl | ⟨_, failed⟩ := left
        · rw [same] at active
          exact absurd (by decide : Status.quarantined.Terminal) active
        · obtain ⟨applied, failed⟩ := failed fits
          exact absurd failed (fate applied)
      · exact running

/-- The thread of a new job starts. -/
theorem ProjectRepairJobs.Sound.launches (sound : jobs.Sound) {kept : Prop}
    (starting : jobs.starting = some (.bound id)) :
    Steps kept jobs { jobs with
      starting := none
      threads := jobs.threads.set id .pinning } := by
  have new : New jobs.journal jobs.threads id := sound.starting _ starting
  refine ⟨⟨sound.grounded.set new.there new.named fun _ => new.waits, (fun _ there => nomatch there), ?_⟩,
    fun _ attended => ?_, rfl⟩
  · have slots := sound.slots
    have more : (jobs.threads.set id .pinning).keys.length = jobs.threads.keys.length + 1 := by
      rw [Dict.keys_set, if_neg new.alone, List.length_append, List.length_singleton]
    rw [held, starting] at slots
    change jobs.slots + (jobs.threads.set id .pinning).keys.length + 0 = jobs.maxJobs
    rw [more]
    exact slots
  · intro other row found active
    by_cases here : other = id
    · subst here
      exact .inl ⟨_, Dict.get?_set_self, by decide⟩
    · obtain ⟨stage, found', going⟩ | started := attended other row found active
      · exact .inl ⟨stage, (Dict.get?_set.trans (if_neg here)).trans found', going⟩
      · rw [Started, starting] at started
        obtain same | same := started
        · cases same
        · cases same
          exact absurd rfl here

theorem ProjectRepairJobs.Sound.start (sound : jobs.Sound) {starting : Starting} {act : Act python}
    (there : jobs.starting = some starting) (eq : act.applyStart jobs starting = some after) :
    Steps (act.Harmless jobs) jobs after := by
  have idle {act : Act python} (same : some jobs = some after) : Steps (act.Harmless jobs) jobs after := by
    cases same
    exact sound.refl
  cases starting with
  | entered creation existing =>
    cases act with
    | register checked made inserted synced written hex =>
      rw [Act.applyStart] at eq
      cases existing with
      | true =>
        refine sound.repeats there (fun result jobs => ?_) eq
        cases result <;> rfl
      | false => exact sound.registers hex there (fun _ _ => rfl) (fun _ _ => rfl) eq
    | enter | bind | launch | work | cancel | retain | close | endClose => exact idle eq
  | created id =>
    have new : New jobs.journal jobs.threads id := sound.starting _ there
    cases act with
    | bind ok =>
      rw [Act.applyStart] at eq
      cases ok with
      | true =>
        cases eq
        refine ⟨⟨sound.grounded, ?_, ?_⟩, fun _ attended other row found active => ?_, rfl⟩
        · rintro _ ⟨⟩
          exact new
        · have slots := sound.slots
          rw [held, there] at slots
          exact slots
        · obtain running | started := attended other row found active
          · exact .inl running
          · rw [Started, there] at started
            obtain same | same := started
            · cases same
              exact .inr (.inr rfl)
            · cases same
      | false =>
        cases eq
        refine sound.abandon sound.grounded fun harmless _ => ?_
        cases harmless id there
    | enter | register | launch | work | cancel | retain | close | endClose => exact idle eq
  | bound id =>
    have new : New jobs.journal jobs.threads id := sound.starting _ there
    cases act with
    | launch started clock written =>
      rw [Act.applyStart] at eq
      cases started with
      | true =>
        cases eq
        exact sound.launches there
      | false =>
        rw [if_neg Bool.false_ne_true] at eq
        obtain ⟨result, t, follows, rfl, ended⟩ :=
          sound.finishes (by decide) new.named new.there eq
        refine sound.abandon (sound.grounded.follow follows) fun harmless attended other row found active => ?_
        have closable := (harmless id there).resolve_left Bool.false_ne_true
        obtain ⟨row', found', ending⟩ := ended (.inr closable)
        have steps : Steps True jobs { jobs with journal := t } := sound.follow follows
        obtain running | started := steps.attended trivial attended other row found active
        · exact running
        · have started : jobs.Started other := started
          rw [Started, there] at started
          obtain same | same := started
          · cases same
          · cases same
            cases found.symm.trans found'
            exact absurd ending active
    | enter | register | bind | work | cancel | retain | close | endClose => exact idle eq

theorem ProjectRepairJobs.Sound.enters (sound : jobs.Sound) (free : jobs.starting = none)
    {creation : Creation} {kept : Prop} : Steps kept jobs (jobs.enter creation) := by
  have slots := sound.slots
  rw [held_of_none free] at slots
  have attends {starting : Starting} {slots : Nat} (attended : jobs.Attended) :
      ({ jobs with
        slots
        starting := some starting } : ProjectRepairJobs).Attended := fun id row found active =>
    .inl ((attended id row found active).resolve_right fun started => started.of_none free)
  rw [enter]
  split_ifs with closed known full
  · exact sound.refl
  · refine ⟨⟨sound.grounded, ?_, slots⟩, fun _ => attends, rfl⟩
    rintro _ ⟨⟩
    exact iff_of_true rfl (Journal.find_isSome.mp known)
  · exact sound.refl
  · refine ⟨⟨sound.grounded, ?_, ?_⟩, fun _ => attends, rfl⟩
    · rintro _ ⟨⟩
      exact iff_of_false Bool.false_ne_true fun found => known (Journal.find_isSome.mpr found)
    · change jobs.slots - 1 + jobs.threads.keys.length + 1 = jobs.maxJobs
      omega

/-- A call that only touches the journal and what `close` reads. -/
theorem ProjectRepairJobs.Sound.journal (sound : jobs.Sound) {kept : Prop}
    (follows : jobs.journal.Follows after.journal) (threads : after.threads = jobs.threads)
    (starting : after.starting = jobs.starting) (slots : after.slots = jobs.slots)
    (most : after.maxJobs = jobs.maxJobs) : Steps kept jobs after := by
  have steps : Steps kept jobs { jobs with journal := after.journal } := sound.follow follows
  obtain ⟨journal, maxJobs, slots', threads', starting', closed, joining⟩ := after
  subst threads starting slots most
  exact ⟨⟨steps.sound.grounded, steps.sound.starting, steps.sound.slots⟩, steps.attended, rfl⟩

theorem ProjectRepairJobs.Sound.free (sound : jobs.Sound) {act : Act python}
    (free : jobs.starting = none) (eq : act.applyFree jobs = some after) :
    Steps (act.Harmless jobs) jobs after := by
  have filed := sound.grounded.filed
  have idle {act : Act python} (same : some jobs = some after) : Steps (act.Harmless jobs) jobs after := by
    cases same
    exact sound.refl
  cases act with
  | enter creation =>
    cases eq
    exact sound.enters free
  | retain nowMs answers =>
    rw [Act.applyFree] at eq
    obtain ⟨result, t, follows, rfl⟩ := inJournal_ends (ends_retainJobs python) filed eq
    exact sound.journal follows rfl rfl rfl rfl
  | close answers =>
    rw [Act.applyFree] at eq
    split_ifs at eq with ready
    · obtain ⟨result, t, follows, rfl⟩ :=
        inJournal_ends (ends_cancelJobs python) (by exact filed) eq
      cases result with
      | ok => exact sound.journal follows rfl rfl rfl rfl
      | error => exact sound.journal follows rfl rfl rfl rfl
    · cases eq
      exact sound.journal .refl rfl rfl rfl rfl
  | endClose nowMs answers =>
    rw [Act.applyFree] at eq
    cases joining : jobs.joining with
    | none =>
      rw [joining] at eq
      exact idle eq
    | some threads =>
      rw [joining] at eq
      dsimp only at eq
      split_ifs at eq
      · cases eq
        exact sound.journal .refl rfl rfl rfl rfl
      · obtain ⟨result, t, follows, rfl⟩ :=
          inJournal_ends (ends_applyRetention python) (by exact filed) eq
        cases result with
        | ok => exact sound.journal (follows.trans (.of_rows rfl)) rfl rfl rfl rfl
        | error => exact sound.journal follows rfl rfl rfl rfl
  | register | bind | launch | work | cancel => exact idle eq

/-- What one step keeps. -/
theorem ProjectRepairJobs.Sound.step (sound : jobs.Sound) {act : Act python}
    (eq : act.apply jobs = some after) : Steps (act.Harmless jobs) jobs after := by
  cases act with
  | work id move =>
    rw [Act.apply] at eq
    cases found : jobs.threads.get? id with
    | none =>
      rw [found] at eq
      cases eq
      exact sound.refl
    | some stage =>
      rw [found] at eq
      exact (sound.work found eq).mono fun harmless => harmless stage found
  | cancel id answers =>
    rw [Act.apply] at eq
    obtain ⟨result, t, follows, rfl⟩ :=
      inJournal_ends (ends_cancel python) sound.grounded.filed eq
    exact sound.follow follows
  | enter | register | bind | launch | retain | close | endClose =>
    simp only [Act.apply] at eq
    cases there : jobs.starting with
    | none =>
      rw [there] at eq
      exact sound.free there eq
    | some starting =>
      rw [there] at eq
      exact sound.start there eq

/-- Every act of a history is harmless where it comes. -/
def ProjectRepairJobs.AllHarmless (jobs : ProjectRepairJobs) : List (Act python) → Prop
  | [] => True
  | act :: acts => act.Harmless jobs ∧ ∀ after ∈ act.apply jobs, after.AllHarmless acts

theorem ProjectRepairJobs.Sound.run (sound : jobs.Sound) {acts : List (Act python)}
    (eq : jobs.run acts = some after) : Steps (jobs.AllHarmless acts) jobs after := by
  induction acts generalizing jobs with
  | nil =>
    cases eq
    exact sound.refl
  | cons act acts ih =>
    obtain ⟨middle, applied, rest⟩ := Option.bind_eq_some_iff.mp eq
    have first := sound.step applied
    exact (first.trans (ih first.sound rest)).mono fun all => ⟨all.1, all.2 middle applied⟩

theorem ProjectRepairJobs.opened_sound {config : Config} {maxJobs : Nat} {nowMs : Int}
    {answers : List Answer} {left : Journal} (filed : left.Filed)
    (eq : opened python config maxJobs nowMs answers left = some jobs) :
    jobs.Sound ∧ jobs.Attended ∧ jobs.maxJobs = maxJobs := by
  have ends : (openJobs python config maxJobs nowMs).Returns
      (fun _ t => left.Follows t ∧ ∀ id ∈ t.rows.keys, t.Ended id) left := by
    refine reads_require.wp_bind (fun _ => trivial) trivial fun _ _ => ?_
    rw [Prog.wp_bind]
    refine Prog.wp_mono (restart_ends python filed) (fun _ t h => ?_) (fun _ _ _ => trivial)
      fun _ _ => trivial
    refine reads_files.wp_bind (fun _ => trivial) trivial fun _ _ => ?_
    refine Prog.wp_mono (ends_applyRetention python t (h.1.filed filed)) (fun _ u follows => ?_)
      (fun _ _ _ => trivial) fun _ _ => trivial
    exact ⟨h.1.trans follows.1, fun id listed => follows.1.ended (h.2 id (follows.1.known id listed))⟩
  have ran := Prog.run_wp ends answers
  rw [opened] at eq
  revert eq ran
  generalize Prog.run (openJobs python config maxJobs nowMs) answers left = result
  obtain ⟨outcome, rest, t⟩ := result
  cases outcome with
  | done =>
    intro eq ran
    cases eq
    refine ⟨⟨⟨ran.1.filed filed, nofun, nofun⟩, nofun, ?_⟩, fun id row found active => ?_, rfl⟩
    · exact Nat.add_zero maxJobs
    · obtain ⟨row', found', ending⟩ := ran.2 id (Dict.mem_keys.mpr ⟨row, found⟩)
      cases found.symm.trans found'
      exact absurd ending active
  | raised => exact nofun
  | crashed => exact nofun

/-- In every history the slots and the threads add up, and while no call fails that nothing makes up
for, every job that has not ended has a thread that has yet to finish it. -/
theorem repairs_attended (earlier : List (Event python)) (config : Config) (maxJobs : Nat)
    (nowMs : Int) (answers : List Answer)
    (began : opened python config maxJobs nowMs answers (History.fresh.run earlier).journal = some jobs)
    (acts : List (Act python)) (ran : jobs.run acts = some after) :
    (after.starting = none → after.slots + after.threads.keys.length = maxJobs) ∧
      after.threads.keys.length ≤ maxJobs ∧ (jobs.AllHarmless acts → after.Attended) := by
  obtain ⟨sound, attended, most⟩ :=
    opened_sound (History.fresh_sane.run earlier).1.journal.filed began
  have steps := sound.run ran
  have slots := steps.sound.slots
  rw [steps.most, most] at slots
  refine ⟨fun free => ?_, by omega, fun harmless => steps.attended harmless attended⟩
  rw [held_of_none free] at slots
  exact slots

end Steps

/-- One request, and its repetition. -/
def someCreation : Creation :=
  ⟨"project", "owner", "issue", "request",
    "0000000000000000000000000000000000000000000000000000000000000000", 8, none, none⟩

def fineAnswer : Answer := ⟨.done, true, 0, "00000000000000000000000000000000", 1⟩

def opening : Option ProjectRepairJobs :=
  opened plain ⟨8, 2⟩ 2 1 [] (History.fresh.run ([] : List (Event plain))).journal

def registering : Act plain :=
  .register true fineAnswer fineAnswer fineAnswer fineAnswer (by decide +kernel)

/-- The job gets its thread. -/
def threaded : List (Act plain) :=
  [.enter someCreation, registering, .bind true, .launch true fineAnswer fineAnswer]

theorem threaded_attended : ∃ jobs after, opening = some jobs ∧ jobs.run threaded = some after ∧
    after.threads.keys.length ≤ 2 ∧ after.Attended := by
  have ran : (opening.bind fun jobs => jobs.run threaded).isSome = true := by decide +kernel
  obtain ⟨after, ran⟩ := Option.isSome_iff_exists.mp ran
  obtain ⟨jobs, began, ran⟩ := Option.bind_eq_some_iff.mp ran
  have kept := repairs_attended [] ⟨8, 2⟩ 2 1 [] began threaded ran
  refine ⟨jobs, after, began, ran, kept.2.1, kept.2.2 ⟨trivial, fun _ _ => ⟨?_, fun _ _ => ⟨?_,
    fun _ _ => ⟨?_, fun _ _ => trivial⟩⟩⟩⟩⟩
  · exact fun _ _ _ unsynced => nomatch unsynced
  · exact fun _ _ => rfl
  · exact fun _ _ => .inl rfl

/-- The binding of the new job fails, and the request is repeated. -/
def unbound : List (Act plain) :=
  [.enter someCreation, registering, .bind false, .enter someCreation, registering]

/-- The job is left without a thread, and its repetition returns it. -/
theorem unbound_orphaned : ¬ ∀ (jobs after : ProjectRepairJobs) (acts : List (Act plain)),
    opening = some jobs → jobs.run acts = some after → after.starting = none → after.Attended := by
  intro all
  have ran : (opening.bind fun jobs => jobs.run unbound).any (fun after =>
      after.starting.isNone ∧ after.threads.keys = [] ∧
        after.journal.rows.entries.map (fun e => (e.1, e.2.body.status)) =
          [("repair_00000000000000000000000000000000", .created)]) = true := by decide +kernel
  obtain ⟨after, ran, left⟩ := (Option.any_eq_true _ _).mp ran
  obtain ⟨jobs, began, ran⟩ := Option.bind_eq_some_iff.mp ran
  obtain ⟨free, threads, rows⟩ := of_decide_eq_true left
  have free := Option.isNone_iff_eq_none.mp free
  obtain ⟨e, listed, same⟩ := List.mem_map.mp (rows ▸ List.mem_singleton_self _ :
    ("repair_00000000000000000000000000000000", Status.created) ∈ _)
  have status : e.2.body.status = .created := congrArg Prod.snd same
  have active : ¬ e.2.body.status.Terminal := by
    rw [status]
    decide
  obtain ⟨stage, found, _⟩ | started :=
    all jobs after unbound began ran free e.1 e.2 (Dict.mem_entries.mp listed) active
  · have mem := Dict.mem_keys.mpr ⟨stage, found⟩
    rw [threads] at mem
    exact absurd mem List.not_mem_nil
  · exact started.of_none free

end Reproof.Repair

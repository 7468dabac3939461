import Reproof.Repair.Workers

/-! Every repair job that has not ended has a thread that has yet to finish it. -/

namespace Reproof.Repair

open Library Contracts Execution.Wire

section Programs

variable (python : Interpreter) {s : Journal} {identifier : String}

theorem Ends.discard {p : Step α} (ends : Ends p) :
    Ends (do
      let _ ← p) := fun s filed =>
  (ends s filed).bind fun _ _ follows _ => tracks_pure follows trivial

theorem Call.Within.ends {call : Call python} (within : call.Within identifier) : Ends call.body := by
  cases call with
  | update id changes => exact (ends_update python within.2).discard
  | cancel id => exact (ends_cancel python).discard
  | writeBlobs id name blobs => exact ends_writeBlobs python
  | beginSnapshotOutput id name bytes => exact (ends_beginSnapshotOutput python).discard
  | writeSidecar handle name raw => exact ends_writeSidecar python
  | beginComplete handle reference => exact ends_beginComplete
  | endComplete handle => exact ends_endComplete python
  | leaveSnapshotOutput handle raised => exact ends_leaveSnapshotOutput python
  | restart => exact within.elim
  | close => exact within.elim
  | create => exact within.elim
  | claim => exact within.elim
  | finish => exact within.elim
  | applyRetention => exact within.elim
  | expire => exact within.elim

theorem reads_look : Reads s (fun document => ∃ row, s.rows.get? identifier = some row ∧
    row.body = document) (look identifier) :=
  reads_files.bind fun _ _ => reads_get.mono fun _ found => found.2

theorem Ends.bind {p : Step α} {f : α → Step β} (first : Ends p) (next : ∀ a, Ends (f a)) :
    Ends (p >>= f) := fun s filed =>
  (first s filed).bind fun a u follows _ =>
    ((next a u (follows.filed filed)).after follows).any

theorem Reads.ends {p : Step α} {φ : Journal → α → Prop} (reads : ∀ t, Reads t (φ t) p) : Ends p :=
  fun s _ => ((reads s).followed .refl).any

theorem ends_all {pass : Document → Step Unit} (step : ∀ document, Ends (pass document))
    (documents : List Document) : Ends (each pass documents) := by
  induction documents with
  | nil => exact fun s _ => tracks_pure .refl trivial
  | cons document documents ih => exact (step document).bind fun _ => ih

theorem ends_retainSource {nowMs : Int} {document : Document} :
    Ends (retainSource python nowMs document) := by
  rw [retainSource]
  split_ifs
  · exact fun s _ => tracks_pure .refl trivial
  · refine (Reads.ends fun t => reads_answer).bind fun answer => ?_
    cases answer.fate with
    | done =>
      dsimp only
      split_ifs
      · exact fun s _ => tracks_pure .refl trivial
      · exact ends_expire python
    | failed applied => exact fun s _ => tracks_raise .refl
    | crashed applied => exact fun s _ => tracks_raise .refl

theorem ends_retainJobs {nowMs : Int} : Ends (retainJobs python nowMs) := by
  refine (Reads.ends fun t => reads_read).bind fun journal => ?_
  refine (Reads.ends fun t => reads_require).bind fun _ => ?_
  exact (ends_all (fun document => ends_retainSource python) _).bind fun _ =>
    ends_applyRetention python

theorem ends_cancelJobs : Ends (cancelJobs python) := by
  refine ends_each fun document u filed holds => ?_
  split_ifs
  · exact tracks_pure .refl fun _ _ kept => kept
  · exact Tracks.bind (tracks_cancel python filed) fun _ _ follows spares =>
      tracks_pure follows spares

end Programs

namespace Journal

variable {s t : Journal} {id : String} {creation : Creation} {body : Document}

def Known (s : Journal) (creation : Creation) : Prop :=
  ∃ id row, s.rows.get? id = some row ∧
    row.body.key = (creation.projectId, creation.ownerId, creation.requestId)

/-- The job has not been claimed. -/
def Waits (s : Journal) (id : String) : Prop :=
  ∀ row, s.rows.get? id = some row → row.body.status = .created ∨ row.body.status.Terminal

theorem find_isSome : (s.find creation).isSome = true ↔ s.Known creation := by
  rw [find, List.find?_isSome]
  constructor
  · rintro ⟨body, listed, same⟩
    obtain ⟨row, mem, rfl⟩ := List.mem_map.mp listed
    obtain ⟨id, found⟩ := Dict.mem_values.mp mem
    obtain ⟨project, owner, request⟩ := of_decide_eq_true same
    exact ⟨id, row, found, Prod.ext project (Prod.ext owner request)⟩
  · rintro ⟨id, row, found, same⟩
    refine ⟨row.body, List.mem_map.mpr ⟨row, Dict.mem_values.mpr ⟨id, found⟩, rfl⟩, ?_⟩
    simp only [Document.key, Prod.mk.injEq] at same
    exact decide_eq_true same

theorem Follows.known_iff (follows : s.Follows t) : t.Known creation ↔ s.Known creation := by
  constructor
  · rintro ⟨id, row', found, same⟩
    obtain ⟨row, found₀, kept⟩ := follows.source found
    exact ⟨id, row, found₀, kept.key.symm.trans same⟩
  · rintro ⟨id, row, found, same⟩
    obtain ⟨row', found', kept⟩ := follows.kept id row found
    exact ⟨id, row', found', kept.key.trans same⟩

theorem Follows.waits (follows : s.Follows t) (waits : s.Waits id) : t.Waits id := by
  intro row' found
  obtain ⟨row, found₀, kept⟩ := follows.source found
  obtain same | ended := kept.status
  · rw [same]
    exact waits row found₀
  · exact .inr ended.2

theorem Follows.mem (follows : s.Follows t) (listed : id ∈ s.rows.keys) : id ∈ t.rows.keys := by
  obtain ⟨row, found⟩ := Dict.mem_keys.mp listed
  obtain ⟨row', found', _⟩ := follows.kept id row found
  exact Dict.mem_keys.mpr ⟨row', found'⟩

theorem Adds.old (adds : s.Adds t id body) {other : String} (listed : other ∈ s.rows.keys) :
    t.rows.get? other = s.rows.get? other := by
  obtain ⟨row, _, added⟩ := adds.added
  rw [added other]
  refine if_neg fun same => adds.new ?_
  rw [← same]
  exact listed

theorem Adds.cases (adds : s.Adds t id body) {other : String} {row : Row}
    (found : t.rows.get? other = some row) :
    other = id ∧ row.body = body ∨ other ∈ s.rows.keys ∧ s.rows.get? other = some row := by
  obtain ⟨new, same, added⟩ := adds.added
  rw [added other] at found
  split_ifs at found with this
  · cases found
    exact .inl ⟨this, same⟩
  · exact .inr ⟨Dict.mem_keys.mpr ⟨row, found⟩, found⟩

theorem Adds.mem (adds : s.Adds t id body) : id ∈ t.rows.keys := by
  obtain ⟨row, _, added⟩ := adds.added
  exact Dict.mem_keys.mpr ⟨row, (added id).trans (if_pos rfl)⟩

end Journal

/-- The threads are of jobs that are there, and a thread that has not claimed its job still can. -/
structure Grounded (s : Journal) (threads : Dict String Stage) : Prop where
  filed : s.Filed
  known : ∀ id ∈ threads.keys, id ∈ s.rows.keys ∧ isIdentifier id
  waiting : ∀ id, threads.get? id = some .pinning → s.Waits id

namespace Grounded

variable {s t : Journal} {threads : Dict String Stage} {id : String} {stage : Stage}
  {body : Document}

theorem follow (grounded : Grounded s threads) (follows : s.Follows t) : Grounded t threads where
  filed := follows.filed grounded.filed
  known id listed := ⟨follows.mem (grounded.known id listed).1, (grounded.known id listed).2⟩
  waiting id pinning := follows.waits (grounded.waiting id pinning)

theorem adds (grounded : Grounded s threads) (added : s.Adds t id body) (named : body.id = id) :
    Grounded t threads where
  filed := by
    intro other row found
    obtain ⟨rfl, same⟩ | ⟨_, found⟩ := added.cases found
    · rw [same]
      exact named
    · exact grounded.filed other row found
  known other listed := by
    obtain ⟨there, named⟩ := grounded.known other listed
    obtain ⟨row, found⟩ := Dict.mem_keys.mp there
    exact ⟨Dict.mem_keys.mpr ⟨row, (added.old there).trans found⟩, named⟩
  waiting other pinning := by
    have there := (grounded.known other (Dict.mem_keys.mpr ⟨_, pinning⟩)).1
    intro row found
    rw [added.old there] at found
    exact grounded.waiting other pinning row found

theorem set (grounded : Grounded s threads) (there : id ∈ s.rows.keys) (named : isIdentifier id)
    (waits : stage = .pinning → s.Waits id) : Grounded s (threads.set id stage) where
  filed := grounded.filed
  known other listed := by
    obtain rfl | listed := Dict.mem_keys_set.mp listed
    · exact ⟨there, named⟩
    · exact grounded.known other listed
  waiting other pinning := by
    obtain ⟨rfl, rfl⟩ | ⟨_, pinning⟩ := Dict.get?_set_some pinning
    · exact waits rfl
    · exact grounded.waiting other pinning

theorem move (grounded : Grounded s threads) {old : Stage} (found : threads.get? id = some old)
    (moved : stage ≠ .pinning) : Grounded s (threads.set id stage) := by
  obtain ⟨there, named⟩ := grounded.known id (Dict.mem_keys.mpr ⟨old, found⟩)
  exact grounded.set there named fun same => absurd same moved

theorem erase (grounded : Grounded s threads) : Grounded s (threads.erase id) where
  filed := grounded.filed
  known other listed := by
    obtain ⟨stage, found⟩ := Dict.mem_keys.mp listed
    rw [Dict.get?_erase] at found
    split_ifs at found
    exact grounded.known other (Dict.mem_keys.mpr ⟨stage, found⟩)
  waiting other pinning := by
    rw [Dict.get?_erase] at pinning
    split_ifs at pinning
    exact grounded.waiting other pinning

end Grounded

/-- The job that a `start` has created: no thread runs it. -/
structure New (s : Journal) (threads : Dict String Stage) (id : String) : Prop where
  there : id ∈ s.rows.keys
  alone : id ∉ threads.keys
  named : isIdentifier id
  waits : s.Waits id

theorem New.follow {s t : Journal} {threads : Dict String Stage} {id : String}
    (new : New s threads id) (follows : s.Follows t) : New t threads id :=
  ⟨follows.mem new.there, new.alone, new.named, follows.waits new.waits⟩

def Starting.Sound (s : Journal) (threads : Dict String Stage) : Starting → Prop
  | .entered creation existing => existing = true ↔ s.Known creation
  | .created id => New s threads id
  | .bound id => New s threads id

theorem Starting.Sound.follow {s t : Journal} {threads : Dict String Stage} {starting : Starting}
    (sound : starting.Sound s threads) (follows : s.Follows t) : starting.Sound t threads := by
  cases starting with
  | entered creation existing => exact Iff.trans sound follows.known_iff.symm
  | created id => exact New.follow sound follows
  | bound id => exact New.follow sound follows

theorem Starting.Sound.keys {s : Journal} {threads threads' : Dict String Stage}
    {starting : Starting} (sound : starting.Sound s threads)
    (fewer : ∀ id ∈ threads'.keys, id ∈ threads.keys) : starting.Sound s threads' := by
  have new (id : String) (new : New s threads id) : New s threads' id :=
    ⟨new.there, fun listed => new.alone (fewer id listed), new.named, new.waits⟩
  cases starting with
  | entered creation existing => exact sound
  | created id => exact new id sound
  | bound id => exact new id sound

namespace ProjectRepairJobs

variable {jobs after : ProjectRepairJobs} {id : String} {stage old : Stage} {t : Journal}

structure Sound (jobs : ProjectRepairJobs) : Prop where
  grounded : Grounded jobs.journal jobs.threads
  starting : ∀ starting ∈ jobs.starting, starting.Sound jobs.journal jobs.threads
  slots : jobs.slots + jobs.threads.keys.length + jobs.held = jobs.maxJobs

/-- Each job that has not ended has a thread that has yet to finish it, or a `start` that has yet to
start its thread. -/
def Attended (jobs : ProjectRepairJobs) : Prop :=
  ∀ id row, jobs.journal.rows.get? id = some row → ¬ row.body.status.Terminal →
    (∃ stage, jobs.threads.get? id = some stage ∧ stage.Active) ∨ jobs.Started id

/-- What a step keeps: of an attended service only when `kept`. -/
structure Steps (kept : Prop) (jobs after : ProjectRepairJobs) : Prop where
  sound : after.Sound
  attended : kept → jobs.Attended → after.Attended
  most : after.maxJobs = jobs.maxJobs

theorem Sound.refl (sound : jobs.Sound) {kept : Prop} : Steps kept jobs jobs :=
  ⟨sound, fun _ attended => attended, rfl⟩

theorem Sound.follow (sound : jobs.Sound) (follows : jobs.journal.Follows t) {kept : Prop} :
    Steps kept jobs { jobs with journal := t } where
  sound := ⟨sound.grounded.follow follows, fun starting there =>
    (sound.starting starting there).follow follows, sound.slots⟩
  attended := by
    intro _ attended id row' found active
    obtain ⟨row, found₀, kept⟩ := follows.source found
    exact attended id row found₀ fun ended => active (kept.terminal ended)
  most := rfl

theorem Steps.trans {first second : Prop} {last : ProjectRepairJobs} (steps : Steps first jobs after)
    (steps' : Steps second after last) : Steps (first ∧ second) jobs last :=
  ⟨steps'.sound, fun kept attended => steps'.attended kept.2 (steps.attended kept.1 attended),
    steps'.most.trans steps.most⟩

theorem Steps.mono {kept kept' : Prop} (steps : Steps kept jobs after) (weaker : kept' → kept) :
    Steps kept' jobs after := ⟨steps.sound, fun h => steps.attended (weaker h), steps.most⟩

theorem Steps.given {kept : Prop} (steps : Steps (kept ∧ jobs.Attended) jobs after) :
    Steps kept jobs after := ⟨steps.sound, fun h attended => steps.attended ⟨h, attended⟩ attended,
    steps.most⟩

/-- A thread that has nothing more to finish has a job that has ended. -/
theorem Attended.ended (attended : jobs.Attended) (sound : jobs.Sound)
    (found : jobs.threads.get? id = some stage) (idle : ¬ stage.Active) : jobs.journal.Ended id := by
  have listed : id ∈ jobs.threads.keys := Dict.mem_keys.mpr ⟨stage, found⟩
  obtain ⟨row, there⟩ := Dict.mem_keys.mp (sound.grounded.known id listed).1
  refine ⟨row, there, Decidable.byContradiction fun active => ?_⟩
  obtain ⟨stage', found', going⟩ | started | started := attended id row there active
  · cases found.symm.trans found'
    exact idle going
  · exact (sound.starting _ started).alone listed
  · exact (sound.starting _ started).alone listed

/-- A thread goes on, and gives its job up only once it has ended. -/
theorem Sound.move (sound : jobs.Sound) (found : jobs.threads.get? id = some old)
    (moved : stage ≠ .pinning) {kept : Prop}
    (ends : kept → stage.Active ∨ jobs.journal.Ended id) :
    Steps kept jobs (jobs.setStage id stage) where
  sound := by
    have listed : id ∈ jobs.threads.keys := Dict.mem_keys.mpr ⟨old, found⟩
    have keys : (jobs.threads.set id stage).keys = jobs.threads.keys :=
      Dict.keys_set.trans (if_pos listed)
    refine ⟨sound.grounded.move found moved, fun starting there =>
      (sound.starting starting there).keys fun other => ?_, ?_⟩
    · exact fun listed => keys ▸ listed
    · change jobs.slots + (jobs.threads.set id stage).keys.length + jobs.held = jobs.maxJobs
      rw [keys]
      exact sound.slots
  attended := by
    intro hypothesis attended other row there active
    by_cases same : other = id
    · subst same
      obtain going | ⟨row', there', ending⟩ := ends hypothesis
      · exact .inl ⟨stage, Dict.get?_set_self, going⟩
      · cases there.symm.trans there'
        exact absurd ending active
    · obtain ⟨stage', found', going⟩ | started := attended other row there active
      · exact .inl ⟨stage', (Dict.get?_set.trans (if_neg same)).trans found', going⟩
      · exact .inr started
  most := rfl

/-- The journal goes on, and then the thread. -/
theorem Sound.moved (sound : jobs.Sound) (follows : jobs.journal.Follows t)
    (found : jobs.threads.get? id = some old) (moved : stage ≠ .pinning) {kept : Prop}
    (ends : kept → stage.Active ∨ t.Ended id) :
    Steps kept jobs ({ jobs with journal := t }.setStage id stage) :=
  have steps : Steps True jobs { jobs with journal := t } := sound.follow follows
  (steps.trans (steps.sound.move found moved ends)).mono fun h => ⟨trivial, h⟩

section

variable {p : Step α} {answers : List Answer}
  {next : Except Failure α → ProjectRepairJobs → ProjectRepairJobs}

theorem inJournal_cases (eq : jobs.inJournal p answers next = some after) :
    (∃ a rest t, p.run answers jobs.journal = (.done a, rest, t) ∧
      after = next (.ok a) { jobs with journal := t }) ∨
    ∃ failure rest t, p.run answers jobs.journal = (.raised failure, rest, t) ∧
      after = next (.error failure) { jobs with journal := t } := by
  rw [inJournal] at eq
  revert eq
  cases ran : p.run answers jobs.journal with
  | mk outcome state =>
    obtain ⟨rest, t⟩ := state
    cases outcome with
    | done a => exact fun eq => .inl ⟨a, rest, t, rfl, (Option.some.inj eq).symm⟩
    | raised failure => exact fun eq => .inr ⟨failure, rest, t, rfl, (Option.some.inj eq).symm⟩
    | crashed => exact nofun

theorem inJournal_wp {Q : α → Journal → Prop} {R : Failure → Journal → Prop} {C : Journal → Prop}
    (h : p.wp Q R C jobs.journal) (eq : jobs.inJournal p answers next = some after) :
    (∃ a t, Q a t ∧ after = next (.ok a) { jobs with journal := t }) ∨
      ∃ failure t, R failure t ∧ after = next (.error failure) { jobs with journal := t } := by
  have ran := Prog.run_wp h answers
  obtain ⟨a, rest, t, run, same⟩ | ⟨failure, rest, t, run, same⟩ := inJournal_cases eq
  · rw [run] at ran
    exact .inl ⟨a, t, ran, same⟩
  · rw [run] at ran
    exact .inr ⟨failure, t, ran, same⟩

theorem inJournal_ends (ends : Ends p) (filed : jobs.journal.Filed)
    (eq : jobs.inJournal p answers next = some after) :
    ∃ result t, jobs.journal.Follows t ∧ after = next result { jobs with journal := t } := by
  obtain ⟨a, t, tracks, same⟩ | ⟨failure, t, follows, same⟩ :=
    inJournal_wp (ends jobs.journal filed) eq
  · exact ⟨.ok a, t, tracks.1, same⟩
  · exact ⟨.error failure, t, follows, same⟩

end

end ProjectRepairJobs

end Reproof.Repair

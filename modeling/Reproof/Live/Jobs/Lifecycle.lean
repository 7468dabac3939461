import Reproof.Live.Jobs.Turns

/-! What holds of each job, wherever its worker is. -/

namespace Reproof.Live.Jobs

open Library

namespace Job

variable (job : Job)

/-- The results are those of the first runs, in order, and each was verified. -/
def Ran (n : Nat) : Prop :=
  job.completedRuns = n ∧ job.results.map (·.run) = List.range' 1 n ∧
  ∀ result ∈ job.results, ∃ document, result.document = some document ∧
    document.ValidSuccess job result.replayId result.expected

def Complete : Prop := job.Ran job.repeats

end Job

variable {faults more : List Fault} {id : String} {e : Entry} {flag : Bool}

/-- The job has all its results, unless an exception has left the body of `_run`. -/
def Verified (faults : List Fault) (id : String) (job : Job) : Prop :=
  job.Complete ∨ .escaped id ∈ faults

/-- What holds of a job whose worker is here. -/
def Pc.Doing (faults : List Fault) (id : String) (e : Entry) : Pc → Prop
  | enter | startup | saving _ | polling _ | looking _ | claiming _ | starting _ _ =>
    e.job.state.Active ∧ e.retryBusy = false ∧ e.job.Ran 0
  | checking _ run =>
    e.job.state.Active ∧ e.retryBusy = false ∧
    ∃ n, run = n + 1 ∧ n ≤ e.job.repeats ∧ e.job.Ran n
  | launching _ run =>
    e.job.state.Active ∧ e.retryBusy = false ∧
    (∃ n, run = n + 1 ∧ run ≤ e.job.repeats ∧ e.job.Ran n) ∧
    (e.job.cancelRequested → .raced id ∈ faults)
  | waiting _ run _ _ _ _ =>
    e.job.state.Active ∧ e.retryBusy = false ∧
    ∃ n, run = n + 1 ∧ run ≤ e.job.repeats ∧ e.job.Ran n
  | keeping _ run replayId expected document =>
    e.job.state.Active ∧ e.retryBusy = false ∧
    (∃ n, run = n + 1 ∧ run ≤ e.job.repeats ∧ e.job.Ran n) ∧
    ∃ d, document = some d ∧ d.ValidSuccess e.job replayId expected
  | leaving session outcome =>
    e.job.state.Active ∧
    (session.isNone ∧ e.retryBusy ∧ e.job.Ran 0 ∨
      e.retryBusy = false ∧ (outcome.state = .succeeded → Verified faults id e.job))
  | closing outcome retryBusy | ending outcome retryBusy =>
    e.job.state.Active ∧ retryBusy = false ∧
    (outcome.state = .succeeded → Verified faults id e.job)
  | releasing true => e.job.state.Active ∧ e.retryBusy = false ∧ e.job.Ran 0
  | releasing false => e.job.state.Terminal
  | dead => True

/-- A cancel has reached the worker, as long as the worker may still read it. -/
def Pc.Attends (e : Entry) (flag : Bool) : Pc → Prop
  | dead | releasing false => True
  | _ => e.job.cancelRequested → flag

/-- What is known of one job. -/
structure View where
  entry : Option Entry
  pc : Option Pc
  saved : Option Job
  flag : Bool

def Site.view (s : Site) (id : String) : View := ⟨s.entry id, s.pc id, s.saved id, s.flag id⟩

structure Entry.Sane (faults : List Fault) (id : String) (v : View) (e : Entry) : Prop where
  queued : e.job.state = .queued → v.pc = none ∧ e.job.cancelRequested = false ∧ e.job.Ran 0 ∧
    e.retryBusy = false
  succeeded : e.job.state = .succeeded → Verified faults id e.job
  late : e.late → .raced id ∈ faults
  kept : e.job.state.Terminal →
    v.saved.map (·.state) = some e.job.state ∨ .unsaved id ∈ faults
  doing : ∀ pc, v.pc = some pc → pc.Doing faults id e
  attends : ∀ pc, v.pc = some pc → pc.Attends e v.flag

structure View.Sane (faults : List Fault) (id : String) (v : View) : Prop where
  alone : v.entry = none → v.pc = none
  verified : ∀ job, v.saved = some job → job.state = .succeeded → Verified faults id job
  stays : ∀ job e, v.saved = some job → job.state.Terminal → v.entry = some e →
    e.job.state = job.state
  entry : ∀ e, v.entry = some e → e.Sane faults id v

/-- Every job is in order. -/
def Site.Sane (s : Site) : Prop := ∀ id, (s.view id).Sane s.faults id

section Monotone

theorem Verified.mono {job : Job} (verified : Verified faults id job) (sub : faults ⊆ more) :
    Verified more id job := verified.imp_right fun mem => sub mem

theorem Pc.Doing.mono {pc : Pc} (doing : pc.Doing faults id e) (sub : faults ⊆ more) :
    pc.Doing more id e := by
  cases pc with
  | launching =>
    obtain ⟨active, calm, ran, raced⟩ := doing
    exact ⟨active, calm, ran, fun asked => sub (raced asked)⟩
  | leaving =>
    obtain ⟨active, retry | ⟨calm, verified⟩⟩ := doing
    · exact ⟨active, .inl retry⟩
    · exact ⟨active, .inr ⟨calm, fun succeeded => (verified succeeded).mono sub⟩⟩
  | closing =>
    obtain ⟨active, calm, verified⟩ := doing
    exact ⟨active, calm, fun succeeded => (verified succeeded).mono sub⟩
  | ending =>
    obtain ⟨active, calm, verified⟩ := doing
    exact ⟨active, calm, fun succeeded => (verified succeeded).mono sub⟩
  | releasing retryBusy => cases retryBusy <;> exact doing
  | _ => exact doing

theorem View.Sane.mono {v : View} (sane : v.Sane faults id) (sub : faults ⊆ more) :
    v.Sane more id where
  alone := sane.alone
  verified job found succeeded := (sane.verified job found succeeded).mono sub
  stays := sane.stays
  entry e found := by
    obtain ⟨queued, succeeded, late, kept, doing, attends⟩ := sane.entry e found
    exact ⟨queued, fun h => (succeeded h).mono sub, fun h => sub (late h),
      fun h => (kept h).imp_right fun mem => sub mem, fun pc here => (doing pc here).mono sub, attends⟩

/-- A change of one job leaves the others in order. -/
theorem Site.Sane.change {s t : Site} (sane : s.Sane) (id : String)
    (others : ∀ k, k ≠ id → t.view k = s.view k) (sub : s.faults ⊆ t.faults)
    (here : (t.view id).Sane t.faults id) : t.Sane := by
  intro k
  by_cases same : k = id
  · rw [same]
    exact here
  · rw [others k same]
    exact (sane k).mono sub

end Monotone

section Step

variable {pc : Pc} {call : Call} {move : Move}

/-- What a step of a worker makes of a job that is in order. -/
structure Move.Sound (faults : List Fault) (id : String) (e : Entry) (flag : Bool) (pc : Pc)
    (move : Move) : Prop where
  next : move.next.Doing (faults ++ pc.faults id move.entry move.next) id move.entry
  attends : move.next.Attends move.entry flag
  failed : ∀ failed, move.saves = some failed →
    failed.Doing (faults ++ pc.faults id move.entry failed) id move.entry ∧
    failed.Attends move.entry flag
  late : move.entry.late → e.late ∨ .raced id ∈ faults
  unqueued : move.entry.job.state ≠ .queued
  succeeded : move.entry.job.state = .succeeded →
    e.job.state = .succeeded ∨ Verified faults id move.entry.job
  unsaved : ∀ failed, move.saves = some failed → move.entry.job.state.Terminal →
    .unsaved id ∈ pc.faults id move.entry failed
  unwritten : move.saves = none → move.entry.job = e.job

theorem JobState.Active.ne_queued {state : JobState} (active : state.Active) : state ≠ .queued := by
  rintro rfl
  exact active

theorem JobState.Active.not_terminal {state : JobState} (active : state.Active) :
    ¬ state.Terminal := by
  cases state <;> simp_all [Active, Terminal]

theorem JobState.Terminal.ne_queued {state : JobState} (terminal : state.Terminal) :
    state ≠ .queued := by
  rintro rfl
  exact terminal

theorem Pc.Attends.intro {pc : Pc} (attends : e.job.cancelRequested → flag) : pc.Attends e flag := by
  unfold Attends
  split
  · trivial
  · trivial
  · exact attends

/-- The job is not written, and goes on as it is. -/
theorem Move.Sound.stay {next : Pc} (active : e.job.state.Active)
    (doing : next.Doing faults id e) (attends : e.job.cancelRequested → flag) :
    Move.Sound faults id e flag pc ⟨e, next, none⟩ where
  next := doing.mono (List.subset_append_left _ _)
  attends := .intro attends
  failed := fun _ saves => by cases saves
  late := .inl
  unqueued := active.ne_queued
  succeeded := .inl
  unsaved := fun _ saves => by cases saves
  unwritten _ := rfl

theorem Pc.doing_leaving {session : Option String} {outcome : Outcome}
    (active : e.job.state.Active) (calm : e.retryBusy = false)
    (verified : outcome.state = .succeeded → Verified faults id e.job) :
    (leaving session outcome).Doing faults id e := ⟨active, .inr ⟨calm, verified⟩⟩

theorem Pc.doing_failed {session : Option String} {code : String} (active : e.job.state.Active)
    (calm : e.retryBusy = false) : (leaving session (.failed code)).Doing faults id e :=
  doing_leaving active calm nofun

theorem Pc.doing_cancelled {session : Option String} {code : String} (active : e.job.state.Active)
    (calm : e.retryBusy = false) : (leaving session (.cancelled code)).Doing faults id e :=
  doing_leaving active calm nofun

theorem Document.judge_verified {document : Document} {job : Job} {replayId : String}
    {expected : Nat} {cancelSent timedOut : Bool} :
    (document.judge job replayId expected cancelSent timedOut).state = some "actions_replayed" →
    ∃ d, (document.judge job replayId expected cancelSent timedOut).document = some d ∧
      d.ValidSuccess job replayId expected := by
  unfold judge
  split
  · intro replayed
    simp at replayed
  · split
    · rename_i valid
      exact fun _ => ⟨document, rfl, valid⟩
    · split
      · intro replayed
        simp at replayed
      · rename_i unreplayed
        exact fun replayed => absurd replayed unreplayed

/-- Only a replay file that was checked counts as a replay. -/
theorem Sight.judge_verified {sight : Sight} {job : Job} {replayId : String} {expected : Nat}
    {cancelSent timedOut : Bool} {result : ReplayResult}
    (judged : sight.judge job replayId expected cancelSent timedOut = some result)
    (replayed : result.state = some "actions_replayed") :
    ∃ d, result.document = some d ∧ d.ValidSuccess job replayId expected := by
  unfold judge at judged
  split at judged
  · cases judged
    simp at replayed
  · dsimp only at judged
    split at judged
    · rename_i ended
      cases judged
      split at ended
      · split at ended
        · split at ended
          · cases ended
            simp at replayed
          · cases ended
            exact Document.judge_verified replayed
          · split at ended
            · rename_i unreplayed
              cases ended
              exact absurd (Option.some.inj replayed) unreplayed
            · cases ended
        · cases ended
      · cases ended
    · split at judged
      · cases judged
        simp at replayed
      · cases judged

theorem Pc.resume_doing {session replayId : String} {run expected : Nat} {cancelSent timedOut : Bool}
    {result : ReplayResult} {earlier : List Fault} (active : e.job.state.Active)
    (calm : e.retryBusy = false) (ran : ∃ n, run = n + 1 ∧ run ≤ e.job.repeats ∧ e.job.Ran n)
    (verified : result.state = some "actions_replayed" →
      ∃ d, result.document = some d ∧ d.ValidSuccess e.job replayId expected) :
    (resume session run replayId expected flag result).Doing (earlier ++
      (waiting session run replayId expected cancelSent timedOut).faults id e
        (resume session run replayId expected flag result)) id e := by
  unfold resume
  split
  · exact doing_failed active calm
  · split
    · exact doing_leaving active calm fun _ => .inr (by simp [Pc.faults, escapes, Outcome.succeeded])
    · rename_i state here
      split
      · rename_i replayed
        exact ⟨active, calm, ran, verified (here.trans (congrArg some replayed))⟩
      · split
        · exact doing_cancelled active calm
        · exact doing_failed active calm

theorem Pc.step_sound (moves : pc.step e flag call = some move) (doing : pc.Doing faults id e)
    (attends : pc.Attends e flag) : Move.Sound faults id e flag pc move := by
  cases pc with
  | enter =>
    obtain ⟨active, calm, ran⟩ := doing
    cases call <;> cases moves
    refine .stay active ?_ attends
    split
    · exact doing_cancelled active calm
    · exact ⟨active, calm, ran⟩
  | startup =>
    obtain ⟨active, calm, ran⟩ := doing
    cases call with
    | startup reply =>
      cases reply with
      | ok session =>
        cases moves
        exact .stay active ⟨active, calm, ran⟩ attends
      | error e' =>
        simp only [Pc.step] at moves
        split at moves
        · cases moves
          exact ⟨⟨active, .inl ⟨rfl, rfl, ran⟩⟩, .intro attends, (fun _ h => by cases h), .inl,
            active.ne_queued, .inl, (fun _ h => by cases h), fun _ => rfl⟩
        · cases moves
          exact .stay active (doing_failed active calm) attends
    | _ => cases moves
  | saving session =>
    obtain ⟨active, calm, ran⟩ := doing
    cases call <;> cases moves
    refine ⟨⟨active, calm, ran⟩, .intro attends, ?_, .inl, active.ne_queued, .inl, ?_, fun h => by cases h⟩
    · rintro _ ⟨⟩
      exact ⟨doing_leaving active calm fun _ => .inr (by simp [Pc.faults, escapes]), .intro attends⟩
    · exact fun _ _ terminal => absurd terminal active.not_terminal
  | polling session =>
    obtain ⟨active, calm, ran⟩ := doing
    cases call <;> cases moves
    refine .stay active ?_ attends
    split
    · exact doing_cancelled active calm
    · split
      · exact doing_failed active calm
      · exact ⟨active, calm, ran⟩
  | looking session =>
    obtain ⟨active, calm, ran⟩ := doing
    cases call with
    | session reply =>
      cases reply with
      | error e =>
        cases moves
        exact .stay active (doing_failed active calm) attends
      | ok state =>
        cases moves
        refine .stay active ?_ attends
        split
        · exact ⟨active, calm, ran⟩
        · split
          · exact doing_failed active calm
          · exact ⟨active, calm, ran⟩
    | _ => cases moves
  | claiming session =>
    obtain ⟨active, calm, ran⟩ := doing
    cases call with
    | claim reply =>
      cases reply with
      | error e =>
        cases moves
        exact .stay active (doing_failed active calm) attends
      | ok controller =>
        cases moves
        exact .stay active ⟨active, calm, ran⟩ attends
    | _ => cases moves
  | starting session controller =>
    obtain ⟨active, calm, ran⟩ := doing
    cases call <;> cases moves
    refine ⟨⟨trivial, calm, 0, rfl, Nat.zero_le _, ran⟩, .intro attends, ?_, .inl, (fun h => by cases h),
      (fun h => by cases h), ?_,
      fun h => by cases h⟩
    · rintro _ ⟨⟩
      exact ⟨doing_leaving trivial calm fun _ => .inr (by simp [Pc.faults, escapes]), .intro attends⟩
    · exact fun _ _ terminal => terminal.elim
  | checking session run =>
    obtain ⟨active, calm, n, rfl, le, ran⟩ := doing
    cases call <;> cases moves
    refine .stay active ?_ attends
    split
    · rename_i last
      have all : n = e.job.repeats := by omega
      rw [all] at ran
      exact doing_leaving active calm fun _ => .inl ran
    · split
      · exact doing_cancelled active calm
      · rename_i unflagged
        split
        · exact doing_failed active calm
        · refine ⟨active, calm, ⟨n, rfl, by omega, ran⟩, fun asked => ?_⟩
          exact absurd (attends asked) unflagged
  | launching session run =>
    obtain ⟨active, calm, ran, raced⟩ := doing
    cases call with
    | launch reply =>
      cases reply with
      | error e' =>
        cases moves
        refine .stay active ?_ attends
        split
        · exact doing_cancelled active calm
        · exact doing_failed active calm
      | ok launch =>
        simp only [Pc.step] at moves
        split at moves
        · cases moves
          exact .stay active (doing_failed active calm) attends
        · split at moves
          · cases moves
            exact .stay active (doing_failed active calm) attends
          · cases moves
            refine ⟨⟨active, calm, ran⟩, .intro attends, (fun _ h => by cases h), fun late => ?_,
              active.ne_queued, .inl,
              (fun _ h => by cases h), fun _ => rfl⟩
            rcases Bool.or_eq_true_iff.mp late with late | asked
            · exact .inl late
            · exact .inr (raced asked)
    | _ => cases moves
  | waiting session run replayId expected cancelSent timedOut =>
    obtain ⟨active, calm, ran⟩ := doing
    cases call with
    | sight sight =>
      cases moves
      refine ⟨?_, .intro attends, (fun _ h => by cases h), .inl, active.ne_queued, .inl, (fun _ h => by cases h),
        fun _ => rfl⟩
      dsimp only
      split
      · rename_i result judged
        exact resume_doing active calm ran (Sight.judge_verified judged)
      · exact ⟨active, calm, ran⟩
    | _ => cases moves
  | keeping session run replayId expected document =>
    obtain ⟨active, calm, ⟨n, rfl, le, ran⟩, d, rfl, valid⟩ := doing
    cases call <;> cases moves
    have more : Job.Ran { e.job with
        results := e.job.results ++ [⟨n + 1, replayId, some d, expected⟩]
        completedRuns := n + 1 } (n + 1) := by
      refine ⟨rfl, ?_, fun result mem => ?_⟩
      · rw [List.map_append, ran.2.1, List.range'_concat, Nat.one_mul, Nat.add_comm 1 n]
        rfl
      · rcases List.mem_append.mp mem with old | new
        · exact ran.2.2 result old
        · cases List.mem_singleton.mp new
          exact ⟨d, rfl, valid⟩
    refine ⟨⟨active, calm, n + 1, rfl, le, more⟩, .intro attends, ?_, .inl, active.ne_queued, .inl, ?_,
      fun h => by cases h⟩
    · rintro _ ⟨⟩
      refine ⟨doing_leaving active calm fun _ => ?_, .intro attends⟩
      by_cases last : n + 1 < e.job.repeats
      · exact .inr (by simp [Pc.faults, escapes, last])
      · have all : n + 1 = e.job.repeats := by omega
        exact .inl (all ▸ more)
    · exact fun _ _ terminal => absurd terminal active.not_terminal
  | leaving session outcome =>
    obtain ⟨active, how⟩ := doing
    cases session with
    | some session =>
      have calm : e.retryBusy = false ∧ (outcome.state = .succeeded → Verified faults id e.job) := by
        rcases how with ⟨none, -⟩ | calm
        · cases none
        · exact calm
      cases call <;> cases moves
      refine ⟨⟨trivial, calm.1, fun h => ?_⟩, .intro attends, ?_, .inl, (fun h => by cases h),
        (fun h => by cases h), ?_, fun h => by cases h⟩
      · exact (calm.2 h).mono (List.subset_append_left _ _)
      · rintro _ ⟨⟩
        exact ⟨⟨trivial, calm.1, fun h => by cases h⟩, .intro attends⟩
      · exact fun _ _ terminal => terminal.elim
    | none =>
      cases call <;> cases moves
      refine ⟨?_, .intro attends, (fun _ h => by cases h), .inl, active.ne_queued, .inl, (fun _ h => by cases h),
        fun _ => rfl⟩
      dsimp only
      split
      · rename_i ends
        rcases how with ⟨-, retry, -⟩ | ⟨calm, verified⟩
        · exact absurd retry ends.1
        · exact ⟨active, calm, fun h => (verified h).mono (List.subset_append_left _ _)⟩
      · rename_i stays
        rcases how with ⟨-, retry, ran⟩ | ⟨calm, -⟩
        · rw [retry]
          exact ⟨active, rfl, ran⟩
        · exact absurd ⟨calm ▸ (fun h => by cases h), active.not_terminal⟩ stays
  | closing outcome retryBusy =>
    obtain ⟨active, calm, verified⟩ := doing
    cases call with
    | closed reply =>
      rcases reply with e' | closed
      · cases moves
        exact .stay active ⟨active, calm, fun h => by cases h⟩ attends
      · cases closed <;> cases moves
        · exact .stay active ⟨active, calm, fun h => by cases h⟩ attends
        · exact .stay active ⟨active, calm, verified⟩ attends
    | _ => cases moves
  | ending outcome retryBusy =>
    obtain ⟨active, rfl, verified⟩ := doing
    cases call <;> simp only [Pc.step, if_neg active.not_terminal] at moves <;> cases moves
    refine ⟨outcome.terminal, trivial, ?_, .inl, ?_, fun h => .inr (verified h), ?_, fun h => by cases h⟩
    · rintro _ ⟨⟩
      exact ⟨trivial, trivial⟩
    · exact fun h => outcome.terminal.ne_queued h
    · rintro _ ⟨⟩ -
      simp [Pc.faults, escapes]
  | releasing retryBusy => cases call <;> cases moves
  | dead => cases call <;> cases moves

theorem Pc.Doing.active (doing : pc.Doing faults id e) (moves : pc.step e flag call = some move) :
    e.job.state.Active := by
  cases pc with
  | releasing => cases call <;> cases moves
  | dead => cases call <;> cases moves
  | _ => exact doing.1

theorem Pc.Doing.asked (doing : pc.Doing faults id e) (sub : faults ⊆ more)
    (raced : ∀ session run, pc = .launching session run → .raced id ∈ more) :
    pc.Doing more id e.asked := by
  cases pc with
  | launching session run =>
    obtain ⟨active, calm, ran, -⟩ := doing
    exact ⟨active, calm, ran, fun _ => raced session run rfl⟩
  | releasing retryBusy => cases retryBusy <;> exact doing
  | _ => exact doing.mono sub

theorem Pc.Doing.abandoned (doing : pc.Doing faults id e) (live : ¬ e.job.state.Terminal) :
    pc.Doing faults id e.abandoned := by
  cases pc with
  | releasing retryBusy =>
    cases retryBusy with
    | true => exact ⟨trivial, doing.2⟩
    | false => exact absurd doing live
  | dead => trivial
  | _ => exact ⟨trivial, doing.2⟩

end Step

section Run

variable {config : Config} {s t : Site}

/-- The worker has made a step, and the job is written or was not changed. -/
theorem Site.Sane.moved {next : Pc} {entry : Entry} {saved : Option Job} (sane : s.Sane)
    (found : s.entry id = some e) (sub : s.faults ⊆ more) (unqueued : entry.job.state ≠ .queued)
    (doing : next.Doing more id entry) (attends : next.Attends entry (s.flag id))
    (late : entry.late → e.late ∨ .raced id ∈ s.faults)
    (succeeded : entry.job.state = .succeeded → Verified more id entry.job)
    (kept : entry.job.state.Terminal →
      saved.map (·.state) = some entry.job.state ∨ .unsaved id ∈ more)
    (stays : ∀ job, saved = some job → job.state.Terminal → entry.job.state = job.state)
    (verified : ∀ job, saved = some job → job.state = .succeeded → Verified more id job) :
    (View.mk (some entry) (some next) saved (s.flag id)).Sane more id where
  alone := nofun
  verified := verified
  stays := by
    rintro job _ here terminal ⟨⟩
    exact stays job here terminal
  entry := by
    rintro _ ⟨⟩
    refine ⟨fun queued => absurd queued unqueued, succeeded, fun h => ?_, kept, ?_, ?_⟩
    · rcases late h with old | raced
      · exact sub (((sane id).entry e found).late old)
      · exact sub raced
    · rintro _ ⟨⟩
      exact doing
    · rintro _ ⟨⟩
      exact attends

/-- A job without a worker, that has not succeeded. -/
theorem View.Sane.idle {v : View} {entry : Entry} (idle : v.pc = none)
    (queued : entry.job.state = .queued → entry.job.cancelRequested = false ∧ entry.job.Ran 0 ∧
      entry.retryBusy = false)
    (failed : entry.job.state ≠ .succeeded) (late : entry.late → .raced id ∈ faults)
    (kept : entry.job.state.Terminal →
      v.saved.map (·.state) = some entry.job.state ∨ .unsaved id ∈ faults)
    (stays : ∀ job, v.saved = some job → job.state.Terminal → entry.job.state = job.state)
    (verified : ∀ job, v.saved = some job → job.state = .succeeded → Verified faults id job)
    (here : v.entry = some entry) : v.Sane faults id where
  alone := fun _ => idle
  verified := verified
  stays := by
    intro job e saved terminal found
    cases here.symm.trans found
    exact stays job saved terminal
  entry := by
    intro e found
    cases here.symm.trans found
    refine ⟨fun h => ⟨idle, queued h⟩, fun h => absurd h failed, late, kept, ?_, ?_⟩
    · exact fun pc busy => nomatch idle.symm.trans busy
    · exact fun pc busy => nomatch idle.symm.trans busy

@[simp] theorem Site.view_turn {pc next : Pc} {entry : Entry} :
    (s.turn id entry pc next).view id = ⟨some entry, some next, s.saved id, s.flag id⟩ := by
  simp [view, turn]

theorem Site.view_turn_ne {pc next : Pc} {entry : Entry} {k : String} (other : k ≠ id) :
    (s.turn id entry pc next).view k = s.view k := by
  simp [view, turn, other]

theorem Turned.sane (turned : Turned config s t) (sane : s.Sane) : t.Sane := by
  cases turned with
  | @add id _ _ _ _ _ _ absent fresh positive =>
    have v := sane id
    refine sane.change id (fun k other => by simp [Site.view, other]) (fun _ h => h) ?_
    refine .idle (v.alone absent) (fun _ => by simp [Entry.new, Job.Ran]) (by simp [Entry.new])
      (by simp [Entry.new]) (by simp [Entry.new, JobState.Terminal]) ?_ ?_
      (Site.entry_add.trans (if_pos rfl))
    · exact fun job saved => by cases fresh.symm.trans saved
    · exact fun job saved => by cases fresh.symm.trans saved
  | @save id e found live =>
    have v := sane id
    have f := v.entry e found
    refine sane.change id (fun k other => by simp [Site.view, other]) (fun _ h => h)
      ⟨v.alone, ?_, ?_, ?_⟩
    · intro job saved succeeded
      cases (Site.saved_save.trans (if_pos rfl)).symm.trans saved
      exact f.succeeded succeeded
    · intro job e' saved terminal
      cases (Site.saved_save.trans (if_pos rfl)).symm.trans saved
      exact absurd terminal live
    · intro e' found'
      cases found.symm.trans found'
      exact ⟨f.queued, f.succeeded, f.late, fun terminal => absurd terminal live, f.doing, f.attends⟩
  | @finish id e state code found queued terminal failed =>
    have v := sane id
    have f := v.entry e found
    refine sane.change id (fun k other => by simp [Site.view, other]) (fun _ h => h) ?_
    refine @View.Sane.idle _ id _ (e.terminal state code) (f.queued queued).1
      (fun h => absurd h terminal.ne_queued) failed f.late ?_ ?_ ?_ (Site.entry_put.trans (if_pos rfl))
    · exact fun _ => .inl (congrArg _ (Site.saved_save.trans (if_pos rfl)))
    · intro job saved _
      cases (Site.saved_save.trans (if_pos rfl)).symm.trans saved
      rfl
    · intro job saved succeeded
      cases (Site.saved_save.trans (if_pos rfl)).symm.trans saved
      exact absurd succeeded failed
  | @finishUnsaved id e state code found queued terminal failed =>
    have v := sane id
    have f := v.entry e found
    refine sane.change id (fun k other => by simp [Site.view, other]) (List.subset_append_left _ _) ?_
    refine @View.Sane.idle _ id _ (e.terminal state code) (f.queued queued).1
      (fun h => absurd h terminal.ne_queued) failed (fun late => ?_) (fun _ => .inr ?_) ?_ ?_
      (Site.entry_put.trans (if_pos rfl))
    · exact List.mem_append_left _ (f.late late)
    · exact List.mem_append_right _ List.mem_cons_self
    · intro job saved ended
      exact absurd (v.stays job e saved ended found ▸ ended) (queued ▸ not_false)
    · intro job saved succeeded
      exact (v.verified job saved succeeded).mono (List.subset_append_left _ _)
  | @ask id e found active =>
    have v := sane id
    have f := v.entry e found
    have sub : s.faults ⊆ s.faults ++ s.race id := List.subset_append_left _ _
    refine sane.change id (fun k other => by simp [Site.view, other]) sub ⟨?_, ?_, ?_, ?_⟩
    · exact fun none => by cases (Site.entry_put.trans (if_pos rfl)).symm.trans none
    · exact fun job saved succeeded => (v.verified job saved succeeded).mono sub
    · intro job e' saved terminal found'
      cases (Site.entry_put.trans (if_pos rfl)).symm.trans found'
      exact v.stays job e saved terminal found
    · intro e' found'
      cases (Site.entry_put.trans (if_pos rfl)).symm.trans found'
      refine ⟨fun queued => absurd queued active.ne_queued, fun h => (f.succeeded h).mono sub,
        fun late => sub (f.late late), fun terminal => absurd terminal active.not_terminal,
        fun pc here => (f.doing pc here).asked sub fun session run launching => ?_,
        fun pc here => .intro fun _ => ?_⟩
      · have worker : s.pc id = some (.launching session run) := launching ▸ here
        exact List.mem_append_right _ (by simp [Site.race, worker])
      · simp [Site.view]
  | @stop id e found active =>
    have v := sane id
    refine sane.change id (fun k other => by simp [Site.view, other]) (fun _ h => h)
      ⟨v.alone, v.verified, v.stays, fun e' found' => ?_⟩
    have f := v.entry e' found'
    refine ⟨f.queued, f.succeeded, f.late, f.kept, f.doing, fun pc here => .intro fun _ => ?_⟩
    simp [Site.view]
  | shut => exact sane
  | @start id e startable =>
    have v := sane id
    have f := v.entry e startable.found
    obtain ⟨-, calm, ran, unretried⟩ := f.queued startable.queued
    refine sane.change id (fun k other => by simp [Site.view, other]) (fun _ h => h)
      ⟨fun none => (by cases (Site.entry_put.trans (if_pos rfl)).symm.trans none), ?_, ?_, ?_⟩
    · intro job saved succeeded
      cases (Site.saved_save.trans (if_pos rfl)).symm.trans saved
      cases succeeded
    · intro job e' saved terminal
      cases (Site.saved_save.trans (if_pos rfl)).symm.trans saved
      exact False.elim terminal
    · intro e' found'
      cases (Site.entry_put.trans (if_pos rfl)).symm.trans found'
      refine ⟨(fun h => by cases h), (fun h => by cases h), f.late, fun terminal => False.elim terminal,
        fun pc here => ?_,
        fun pc here => .intro fun asked => by cases calm.symm.trans asked⟩
      cases (Site.pc_place.trans (if_pos rfl)).symm.trans here
      exact ⟨trivial, unretried, ran⟩
  | @stall id e startable =>
    have v := sane id
    have f := v.entry e startable.found
    have idle := (f.queued startable.queued).1
    refine sane.change id (fun k other => by simp [Site.view, other]) (fun _ h => h)
      ⟨fun _ => idle, v.verified, ?_, ?_⟩
    · intro job e' saved terminal
      have same := v.stays job e saved terminal startable.found
      exact absurd terminal (same ▸ startable.queued ▸ not_false)
    · intro e' found'
      cases (Site.entry_put.trans (if_pos rfl)).symm.trans found'
      exact ⟨(fun h => by cases h), (fun h => by cases h), f.late, fun terminal => False.elim terminal,
        fun pc here => (by cases idle.symm.trans here),
        fun pc here => (by cases idle.symm.trans here)⟩
  | @turn id e pc call move found worker step unsaved =>
    have v := sane id
    have f := v.entry e found
    have sound := Pc.step_sound step (f.doing pc worker) (f.attends pc worker)
    have sub : s.faults ⊆ s.faults ++ pc.faults id move.entry move.next :=
      List.subset_append_left _ _
    refine sane.change id (fun k other => Site.view_turn_ne other) sub ?_
    rw [Site.view_turn]
    refine sane.moved found sub sound.unqueued sound.next sound.attends sound.late ?_ ?_ ?_ ?_
    · intro succeeded
      rcases sound.succeeded succeeded with old | new
      · rw [sound.unwritten unsaved]
        exact (f.succeeded old).mono sub
      · exact new.mono sub
    · intro terminal
      rw [sound.unwritten unsaved] at terminal ⊢
      exact (f.kept terminal).imp_right fun mem => sub mem
    · intro job saved terminal
      rw [sound.unwritten unsaved]
      exact v.stays job e saved terminal found
    · exact fun job saved succeeded => (v.verified job saved succeeded).mono sub
  | @turnSaved id e pc failed call move found worker step saves =>
    have v := sane id
    have f := v.entry e found
    have active := (f.doing pc worker).active step
    have sound := Pc.step_sound step (f.doing pc worker) (f.attends pc worker)
    have sub : s.faults ⊆ s.faults ++ pc.faults id move.entry move.next :=
      List.subset_append_left _ _
    have verified : move.entry.job.state = .succeeded →
        Verified (s.faults ++ pc.faults id move.entry move.next) id move.entry.job := by
      intro succeeded
      rcases sound.succeeded succeeded with old | new
      · exact absurd (old ▸ trivial) active.not_terminal
      · exact new.mono sub
    have here : ((s.turn id move.entry pc move.next).save id move.entry.job).view id =
        ⟨some move.entry, some move.next, some move.entry.job, s.flag id⟩ := by
      simp [Site.view, Site.turn]
    refine sane.change id (fun k other => by simp [Site.view, Site.turn, other]) sub ?_
    rw [here]
    refine sane.moved found sub sound.unqueued sound.next sound.attends sound.late verified ?_ ?_ ?_
    · exact fun _ => .inl rfl
    · rintro _ ⟨⟩ -
      rfl
    · rintro _ ⟨⟩
      exact verified
  | @turnFailed id e pc failed call move found worker step saves =>
    have v := sane id
    have f := v.entry e found
    have active := (f.doing pc worker).active step
    have sound := Pc.step_sound step (f.doing pc worker) (f.attends pc worker)
    have sub : s.faults ⊆ s.faults ++ pc.faults id move.entry failed := List.subset_append_left _ _
    have faults : ((s.turn id move.entry pc move.next).turn id move.entry pc failed).faults =
        s.faults ++ pc.faults id move.entry failed := by
      simp [Site.turn, Site.log, saves_faults step saves]
      rfl
    have here : ((s.turn id move.entry pc move.next).turn id move.entry pc failed).view id =
        ⟨some move.entry, some failed, s.saved id, s.flag id⟩ := by
      simp [Site.view, Site.turn]
    refine sane.change id (fun k other => ?_) (faults ▸ sub) ?_
    · rw [Site.view_turn_ne other, Site.view_turn_ne other]
    rw [here, faults]
    refine sane.moved found sub sound.unqueued (sound.failed failed saves).1
      (sound.failed failed saves).2 sound.late ?_ ?_ ?_ ?_
    · intro succeeded
      rcases sound.succeeded succeeded with old | new
      · exact absurd (old ▸ trivial) active.not_terminal
      · exact new.mono sub
    · exact fun terminal => .inr (List.mem_append_right _ (sound.unsaved failed saves terminal))
    · intro job saved terminal
      exact absurd (v.stays job e saved terminal found ▸ terminal) active.not_terminal
    · exact fun job saved succeeded => (v.verified job saved succeeded).mono sub
  | @release id e retryBusy found worker settled =>
    have v := sane id
    have f := v.entry e found
    have idle : (s.free id e.job.deviceId).pc id = none := Site.pc_free.trans (if_pos rfl)
    refine sane.change id (fun k other => by simp [Site.view, other]) (fun _ h => h)
      ⟨fun _ => idle, v.verified, v.stays, fun e' found' => ?_⟩
    have f' := v.entry e' found'
    exact ⟨fun queued => ⟨idle, (f'.queued queued).2⟩, f'.succeeded, f'.late, f'.kept,
      fun pc here => (by cases idle.symm.trans here),
        fun pc here => (by cases idle.symm.trans here)⟩
  | @requeue id e found worker unflagged =>
    have v := sane id
    have f := v.entry e found
    obtain ⟨active, unretried, ran⟩ := f.doing _ worker
    have calm : e.job.cancelRequested = false := by
      by_contra asked
      cases unflagged.symm.trans (f.attends _ worker (eq_true_of_ne_false asked))
    have idle : (s.free id e.job.deviceId).pc id = none := Site.pc_free.trans (if_pos rfl)
    refine sane.change id (fun k other => by simp [Site.view, other]) (fun _ h => h) ?_
    refine @View.Sane.idle _ id _ e.queued idle (fun _ => ⟨calm, ran, unretried⟩) (fun h => by cases h) f.late
      (fun terminal => False.elim terminal) ?_ v.verified (Site.entry_put.trans (if_pos rfl))
    intro job saved terminal
    exact absurd (v.stays job e saved terminal found ▸ terminal) active.not_terminal
  | @giveUp id e code found worker live =>
    have v := sane id
    have f := v.entry e found
    have idle : (s.free id e.job.deviceId).pc id = none := Site.pc_free.trans (if_pos rfl)
    refine sane.change id (fun k other => by simp [Site.view, other]) (fun _ h => h) ?_
    refine @View.Sane.idle _ id _ (e.terminal .cancelled code) idle (fun h => by cases h)
      (fun h => by cases h) f.late ?_ ?_ ?_
      (Site.entry_put.trans (if_pos rfl))
    · exact fun _ => .inl (congrArg _ (Site.saved_save.trans (if_pos rfl)))
    · intro job saved _
      cases (Site.saved_save.trans (if_pos rfl)).symm.trans saved
      rfl
    · intro job saved succeeded
      cases (Site.saved_save.trans (if_pos rfl)).symm.trans saved
      cases succeeded
  | @giveUpUnsaved id e code found worker live =>
    have v := sane id
    have f := v.entry e found
    have sub : s.faults ⊆ s.faults ++ [Fault.unsaved id] := List.subset_append_left _ _
    have idle : (s.free id e.job.deviceId).pc id = none := Site.pc_free.trans (if_pos rfl)
    refine sane.change id (fun k other => by simp [Site.view, other]) sub ?_
    refine @View.Sane.idle _ id _ (e.terminal .cancelled code) idle (fun h => by cases h) (fun h => by cases h)
      (fun late => sub (f.late late)) ?_ ?_ ?_ (Site.entry_put.trans (if_pos rfl))
    · exact fun _ => .inr (List.mem_append_right _ List.mem_cons_self)
    · intro job saved terminal
      exact absurd (v.stays job e saved terminal found ▸ terminal) live
    · exact fun job saved succeeded => (v.verified job saved succeeded).mono sub
  | @abandon id e pc found worker alive live =>
    have v := sane id
    have f := v.entry e found
    refine sane.change id (fun k other => by simp [Site.view, other]) (fun _ h => h)
      ⟨fun none => (by cases (Site.entry_put.trans (if_pos rfl)).symm.trans none), v.verified, ?_, ?_⟩
    · intro job e' saved terminal
      exact absurd (v.stays job e saved terminal found ▸ terminal) live
    · intro e' found'
      cases (Site.entry_put.trans (if_pos rfl)).symm.trans found'
      refine ⟨(fun h => by cases h), (fun h => by cases h), f.late, fun terminal => False.elim terminal,
        fun pc here => (f.doing pc here).abandoned live, fun pc here => ?_⟩
      exact f.attends pc here
  | @recover id job absent found terminal =>
    have v := sane id
    refine sane.change id (fun k other => by simp [Site.view, other]) (fun _ h => h)
      ⟨fun _ => v.alone absent, v.verified, ?_, ?_⟩
    · intro job' e' saved _ found'
      cases (Site.entry_add.trans (if_pos rfl)).symm.trans found'
      cases found.symm.trans saved
      rfl
    · intro e' found'
      cases (Site.entry_add.trans (if_pos rfl)).symm.trans found'
      have idle : s.pc id = none := v.alone absent
      refine ⟨fun queued => absurd queued terminal.ne_queued, v.verified job found, (fun h => by cases h),
        fun _ => .inl (congrArg _ found), ?_, ?_⟩
      · exact fun pc here => by cases idle.symm.trans here
      · exact fun pc here => by cases idle.symm.trans here
  | @interrupt id job absent found live =>
    have v := sane id
    refine sane.change id (fun k other => by simp [Site.view, other]) (fun _ h => h) ?_
    refine @View.Sane.idle _ id _ (.recovered job.interrupted s.queue.nextOrder) (v.alone absent)
      (fun h => by cases h)
      (fun h => by cases h) (fun h => by cases h) ?_ ?_ ?_ (Site.entry_add.trans (if_pos rfl))
    · exact fun _ => .inl (congrArg _ (Site.saved_save.trans (if_pos rfl)))
    · intro job' saved _
      cases (Site.saved_save.trans (if_pos rfl)).symm.trans saved
      rfl
    · intro job' saved succeeded
      cases (Site.saved_save.trans (if_pos rfl)).symm.trans saved
      cases succeeded

/-- Of a job that is not in memory only the file is known. -/
theorem View.Sane.absent {v : View} (absent : v.entry = none) (idle : v.pc = none)
    (verified : ∀ job, v.saved = some job → job.state = .succeeded → Verified faults id job) :
    v.Sane faults id where
  alone _ := idle
  verified := verified
  stays _ _ _ _ found := nomatch absent.symm.trans found
  entry _ found := nomatch absent.symm.trans found

theorem Site.Sane.lost (sane : s.Sane) : s.lost.Sane := fun id =>
  .absent rfl rfl (sane id).verified

theorem Leads.sane (leads : Leads config s t) (sane : s.Sane) : t.Sane := by
  induction leads with
  | refl => exact sane
  | tail _ passes ih =>
    cases passes with
    | turned turned => exact turned.sane ih
    | lost => exact ih.lost

theorem World.start_sane : start.site.Sane := fun _ =>
  .absent rfl rfl fun job (found : none = some job) => nomatch found

theorem World.run_sane {events : List Event} : (run config events).site.Sane :=
  Leads.sane foldl_leads start_sane

end Run

end Reproof.Live.Jobs

import Reproof.Live.Jobs.Lifecycle

/-! A job has succeeded only after all its runs, and a job that has ended stays as it is. -/

namespace Reproof.Live.Jobs

open Library

variable {config : Config} {s t : Site} {id : String} {reached : JobState}

/-- The state of a job: of the entry in memory, or else of the file. -/
def Site.state (s : Site) (id : String) : Option JobState :=
  match s.entry id with
  | some entry => some entry.job.state
  | none => (s.saved id).map (·.state)

theorem Site.state_eq {e : Entry} (found : s.entry id = some e) :
    s.state id = some e.job.state := by
  rw [state, found]

/-- A change of one job, in memory, that leaves it alone if it has ended. -/
theorem Site.state_kept {k : String} {e e' : Entry} (found : s.entry k = some e)
    (entry : ∀ j, t.entry j = if j = k then some e' else s.entry j)
    (saved : ∀ j, j ≠ k → t.saved j = s.saved j)
    (same : e.job.state.Terminal → e'.job.state = e.job.state) (ended : s.state id = some reached)
    (terminal : reached.Terminal) : t.state id = some reached := by
  by_cases here : id = k
  · subst here
    rw [state_eq found, Option.some.injEq] at ended
    rw [state_eq ((entry id).trans (if_pos rfl)), same (ended ▸ terminal), ended]
  · have other : t.entry id = s.entry id := (entry id).trans (if_neg here)
    rw [Site.state, other, saved id here]
    exact ended

theorem JobState.Terminal.absurd_queued {p : Prop} (queued : reached = .queued)
    (terminal : reached.Terminal) : p := absurd queued terminal.ne_queued

/-- A job that has ended does not change its state while the process goes on. -/
theorem Turned.state_kept (turned : Turned config s t) (sane : s.Sane)
    (ended : s.state id = some reached) (terminal : reached.Terminal) : t.state id = some reached := by
  cases turned with
  | @add k _ _ _ _ _ _ absent fresh positive =>
    by_cases here : id = k
    · subst here
      rw [Site.state, absent, fresh] at ended
      cases ended
    · rw [Site.state, Site.entry_add, if_neg here]
      exact ended
  | @save k e found live =>
    refine Site.state_kept found (fun j => ?_) (fun j other => by simp [other]) (fun _ => rfl) ended
      terminal
    by_cases here : j = k
    · rw [if_pos here, here]
      exact found
    · rw [if_neg here]
      rfl
  | @finish k e _ _ found queued _ failed =>
    exact Site.state_kept found (fun j => Site.entry_put) (fun j other => by simp [other])
      (JobState.Terminal.absurd_queued queued) ended terminal
  | @finishUnsaved k e _ _ found queued _ failed =>
    exact Site.state_kept found (fun j => Site.entry_put) (fun j other => rfl)
      (JobState.Terminal.absurd_queued queued) ended terminal
  | @ask k e found active =>
    exact Site.state_kept found (fun j => Site.entry_put) (fun j other => rfl) (fun _ => rfl) ended
      terminal
  | stop | shut | release => exact ended
  | @start k e startable =>
    exact Site.state_kept startable.found (fun j => Site.entry_put) (fun j other => by simp [other])
      (JobState.Terminal.absurd_queued startable.queued) ended terminal
  | @stall k e startable =>
    exact Site.state_kept startable.found (fun j => Site.entry_put) (fun j other => rfl)
      (JobState.Terminal.absurd_queued startable.queued) ended terminal
  | @turn k e pc call move found worker step unsaved =>
    have f := (sane k).entry e found
    have sound := Pc.step_sound step (f.doing pc worker) (f.attends pc worker)
    refine Site.state_kept found (fun j => Site.entry_put) (fun j other => rfl) (fun _ => ?_) ended
      terminal
    rw [sound.unwritten unsaved]
  | @turnSaved k e pc failed call move found worker step saves =>
    have active := (((sane k).entry e found).doing pc worker).active step
    exact Site.state_kept found (fun j => Site.entry_put) (fun j other => by simp [Site.turn, other])
      (fun final => absurd final active.not_terminal) ended terminal
  | @turnFailed k e pc failed call move found worker step saves =>
    have active := (((sane k).entry e found).doing pc worker).active step
    refine @Site.state_kept _ _ _ _ k e move.entry found (fun j => ?_) (fun j other => rfl)
      (fun final => absurd final active.not_terminal) ended terminal
    simp only [Site.turn, Site.entry_log, Site.entry_place, Site.entry_put]
    split
    · rfl
    · rfl
  | @requeue k e found worker unflagged =>
    obtain ⟨active, -⟩ := ((sane k).entry e found).doing _ worker
    exact Site.state_kept found (fun j => Site.entry_put) (fun j other => rfl)
      (fun final => absurd final active.not_terminal) ended terminal
  | @giveUp k e code found worker live =>
    exact Site.state_kept found (fun j => Site.entry_put) (fun j other => by simp [other])
      (fun final => absurd final live) ended terminal
  | @giveUpUnsaved k e code found worker live =>
    exact Site.state_kept found (fun j => Site.entry_put) (fun j other => rfl)
      (fun final => absurd final live) ended terminal
  | @abandon k e pc found worker alive live =>
    exact Site.state_kept found (fun j => Site.entry_put) (fun j other => rfl)
      (fun final => absurd final live) ended terminal
  | @recover k job absent found final =>
    by_cases here : id = k
    · subst here
      rw [Site.state, absent, found] at ended
      rw [Site.state_eq (Site.entry_add.trans (if_pos rfl))]
      exact ended
    · rw [Site.state, Site.entry_add, if_neg here]
      exact ended
  | @interrupt k job absent found live =>
    by_cases here : id = k
    · subst here
      rw [Site.state, absent, found, Option.map_some, Option.some.injEq] at ended
      exact absurd (ended ▸ terminal) live
    · rw [Site.state, Site.entry_save, Site.entry_add, if_neg here, Site.saved_save, if_neg here]
      exact ended

theorem Site.state_lost (sane : s.Sane) (saved : .unsaved id ∉ s.faults)
    (ended : s.state id = some reached) (terminal : reached.Terminal) : s.lost.state id = some reached := by
  cases found : s.entry id with
  | none =>
    rw [Site.state, found] at ended
    exact ended
  | some e =>
    rw [Site.state_eq found, Option.some.injEq] at ended
    rcases ((sane id).entry e found).kept (ended ▸ terminal) with kept | unsaved
    · exact kept.trans (congrArg some ended)
    · exact absurd unsaved saved

theorem Turned.faults (turned : Turned config s t) : s.faults ⊆ t.faults := by
  cases turned with
  | finishUnsaved | giveUpUnsaved | ask | turn => exact List.subset_append_left _ _
  | turnSaved => exact List.subset_append_left _ _
  | turnFailed =>
    exact List.Subset.trans (List.subset_append_left _ _) (List.subset_append_left _ _)
  | _ => exact fun _ mem => mem

theorem Leads.faults (leads : Leads config s t) : s.faults ⊆ t.faults := by
  induction leads with
  | refl => exact fun _ mem => mem
  | tail _ passes ih =>
    cases passes with
    | turned turned => exact List.Subset.trans ih turned.faults
    | lost => exact ih

/-- A job that has ended does not change its state, unless a write of it has failed. -/
theorem Leads.state_kept (leads : Leads config s t) (sane : s.Sane) (saved : .unsaved id ∉ t.faults)
    (ended : s.state id = some reached) (terminal : reached.Terminal) : t.state id = some reached := by
  induction leads with
  | refl => exact ended
  | @tail u v before passes ih =>
    cases passes with
    | turned turned =>
      have kept := ih fun mem => saved (turned.faults mem)
      exact turned.state_kept (Leads.sane before sane) kept terminal
    | lost => exact Site.state_lost (Leads.sane before sane) saved (ih saved) terminal

namespace World

/-- The state of a job, as `get` and `list` show it, or as it is in the file. -/
def state (w : World) (id : String) : Option JobState := w.site.state id

theorem run_succeeded (events : List Event) (id : String) :
    (.escaped id ∉ (run config events).faults →
      ∀ job, (run config events).disk.get? id = some job → job.state = .succeeded → job.Complete) ∧
    ∀ more, .unsaved id ∉ (run config (events ++ more)).faults →
      ∀ reached, (run config events).state id = some reached → reached.Terminal →
        (run config (events ++ more)).state id = some reached := by
  refine ⟨fun unescaped job found succeeded => ?_, fun more saved _ ended terminal => ?_⟩
  · rcases (run_sane id).verified job found succeeded with complete | escaped
    · exact complete
    · exact absurd escaped unescaped
  · rw [run_append] at saved ⊢
    exact Leads.state_kept foldl_leads run_sane saved ended terminal

def oneDevice : Config := ⟨1, 1, by decide, by decide⟩

/-- Nothing is overdue, and every device is available. -/
def anyPass : Pass := ⟨fun _ => false, fun _ => true, fun _ => false, fun _ => true⟩

/-- A job gets its device and its session. -/
def begins : List Event :=
  [.restart (fun _ => true) [],
    .submit "owner" "request" "job" "recording" "digest" "device" 1 true [],
    .dispatch anyPass [],
    .work "job" .silent [],
    .work "job" (.startup (.ok "session")) []]

/-- The session is closed, and the job ends. -/
def ends : List Event :=
  [.work "job" .silent [],
    .work "job" (.closed (.ok true)) [],
    .work "job" .silent []]

/-- The session of the job becomes active, and its run is checked. -/
def prepares : List Event :=
  [.work "job" .silent [],
    .work "job" (.clock false false) [],
    .work "job" (.session (.ok "active")) [],
    .work "job" (.claim (.ok "controller")) [],
    .work "job" .silent [],
    .work "job" (.clock false false) []]

def replayFile : Document :=
  ⟨some "replay", some "recording", some "digest", some "actions_replayed", some ["receipt"]⟩

/-- The run is started and replays its one event. -/
def replays : List Event :=
  [.work "job" (.launch (.ok ⟨"digest", 1, some "controller", "replay"⟩)) [],
    .work "job" (.sight ⟨false, false, .ok (some ("replay", "actions_replayed")),
      some (.ok replayFile)⟩) [],
    .work "job" .silent [],
    .work "job" (.clock false false) []]

theorem run_succeeded_once :
    (∃ job, (run oneDevice (begins ++ prepares ++ replays ++ ends)).disk.get? "job" = some job ∧
      job.state = .succeeded ∧ job.Complete) ∧
    (run oneDevice ((begins ++ prepares ++ replays ++ ends) ++ [.restart (fun _ => true) []])).state
      "job" = some .succeeded := by
  have kept := @run_succeeded oneDevice (begins ++ prepares ++ replays ++ ends) "job"
  have found : (run oneDevice (begins ++ prepares ++ replays ++ ends)).disk.get? "job" =
      some ⟨"owner", "request", "recording", "digest", "device", .succeeded, some "session", 1, 1,
        [⟨1, "replay", some replayFile, 1⟩], none, false⟩ := by
    decide +kernel
  refine ⟨⟨_, found, rfl, kept.1 (by decide +kernel) _ found rfl⟩, ?_⟩
  exact kept.2 [.restart (fun _ => true) []] (by decide +kernel) .succeeded (by decide +kernel) trivial

/-- The write of the session fails, and the job succeeds without a run. -/
theorem run_succeeded_unwritten :
    ∃ job, (run oneDevice (begins ++ .work "job" .silent [.failed false] :: ends)).disk.get? "job" =
      some job ∧ job.state = .succeeded ∧ ¬ job.Complete := by
  refine ⟨⟨"owner", "request", "recording", "digest", "device", .succeeded, some "session", 1, 0, [],
    none, false⟩, by decide +kernel, rfl, fun complete => ?_⟩
  exact nomatch complete.1

end World

end Reproof.Live.Jobs

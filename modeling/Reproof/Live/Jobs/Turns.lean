import Mathlib.Logic.Relation
import Reproof.Live.Jobs.Queue

/-! What the programs of a queue do to it, one job at a time, with what they have checked. -/

namespace Reproof.Live.Jobs

open Library

namespace Site

variable {s : Site} {id k : String} {e : Entry} {pc : Pc} {job : Job} {b : Bool} {d : String}
  {faults : List Fault}

@[simp] theorem entry_put : (s.put id e).entry k = if k = id then some e else s.entry k :=
  Dict.get?_set

@[simp] theorem entry_add : (s.add id e).entry k = if k = id then some e else s.entry k :=
  Dict.get?_set

@[simp] theorem entry_place : (s.place id pc).entry k = s.entry k := rfl
@[simp] theorem entry_raise : (s.raise id b).entry k = s.entry k := rfl
@[simp] theorem entry_assign : (s.assign id d).entry k = s.entry k := rfl
@[simp] theorem entry_free : (s.free id d).entry k = s.entry k := rfl
@[simp] theorem entry_save : (s.save id job).entry k = s.entry k := rfl
@[simp] theorem entry_shut : s.shut.entry k = s.entry k := rfl
@[simp] theorem entry_log : (s.log faults).entry k = s.entry k := rfl

@[simp] theorem pc_put : (s.put id e).pc k = s.pc k := rfl
@[simp] theorem pc_add : (s.add id e).pc k = s.pc k := rfl

@[simp] theorem pc_place : (s.place id pc).pc k = if k = id then some pc else s.pc k :=
  Dict.get?_set

@[simp] theorem pc_raise : (s.raise id b).pc k = s.pc k := rfl
@[simp] theorem pc_assign : (s.assign id d).pc k = s.pc k := rfl

@[simp] theorem pc_free : (s.free id d).pc k = if k = id then none else s.pc k := Dict.get?_erase

@[simp] theorem pc_save : (s.save id job).pc k = s.pc k := rfl
@[simp] theorem pc_shut : s.shut.pc k = s.pc k := rfl
@[simp] theorem pc_log : (s.log faults).pc k = s.pc k := rfl

@[simp] theorem saved_put : (s.put id e).saved k = s.saved k := rfl
@[simp] theorem saved_add : (s.add id e).saved k = s.saved k := rfl
@[simp] theorem saved_place : (s.place id pc).saved k = s.saved k := rfl
@[simp] theorem saved_raise : (s.raise id b).saved k = s.saved k := rfl
@[simp] theorem saved_assign : (s.assign id d).saved k = s.saved k := rfl
@[simp] theorem saved_free : (s.free id d).saved k = s.saved k := rfl

@[simp] theorem saved_save : (s.save id job).saved k = if k = id then some job else s.saved k :=
  Dict.get?_set

@[simp] theorem saved_shut : s.shut.saved k = s.saved k := rfl
@[simp] theorem saved_log : (s.log faults).saved k = s.saved k := rfl

@[simp] theorem flag_put : (s.put id e).flag k = s.flag k := rfl
@[simp] theorem flag_add : (s.add id e).flag k = s.flag k := rfl
@[simp] theorem flag_place : (s.place id pc).flag k = s.flag k := rfl

@[simp] theorem flag_raise : (s.raise id b).flag k = if k = id then b else s.flag k := by
  unfold flag raise
  rw [Dict.get?_set]
  split
  · simp
  · rfl

@[simp] theorem flag_assign : (s.assign id d).flag k = s.flag k := rfl

@[simp] theorem flag_free : (s.free id d).flag k = if k = id then false else s.flag k := by
  unfold flag free
  rw [Dict.get?_erase]
  split
  · simp
  · rfl

@[simp] theorem flag_save : (s.save id job).flag k = s.flag k := rfl
@[simp] theorem flag_shut : s.shut.flag k = s.flag k := rfl
@[simp] theorem flag_log : (s.log faults).flag k = s.flag k := rfl

end Site

/-- What `Pass.start` makes of a job. -/
def Entry.starting (entry : Entry) : Entry :=
  { entry with job := { entry.job with state := .starting } }

def Entry.queued (entry : Entry) : Entry :=
  { entry with job := { entry.job with state := .queued } }

def Entry.asked (entry : Entry) : Entry :=
  { entry with job := { entry.job with cancelRequested := true } }

def Entry.abandoned (entry : Entry) : Entry :=
  { entry with job := { entry.job with
      state := .cleaning, errorCode := some "shutdown_timeout" } }

def Job.interrupted (job : Job) : Job :=
  { job with state := .interrupted, errorCode := some "interrupted" }

def Entry.recovered (job : Job) (order : Nat) : Entry := ⟨job, order, none, false, false⟩

/-- The guards of `Pass.start`. -/
structure Startable (config : Config) (s : Site) (id : String) (e : Entry) : Prop where
  found : s.entry id = some e
  queued : e.job.state = .queued
  free : e.job.deviceId ∉ s.queue.assigned.keys
  room : s.queue.assigned.keys.length < config.maxRunning
  oldest : ∀ k e', s.entry k = some e' → e'.job.deviceId = e.job.deviceId →
    e'.job.state = .queued → e.order ≤ e'.order

/-- One thing that happens to one job. -/
inductive Turned (config : Config) : Site → Site → Prop
  | add {s : Site} {id owner requestId recordingId recordingDigest deviceId : String} {repeats : Nat}
      (absent : s.entry id = none) (fresh : s.saved id = none) (positive : 1 ≤ repeats) :
      Turned config s (s.add id
        (.new owner requestId recordingId recordingDigest deviceId repeats s.queue.nextOrder))
  | save {s : Site} {id : String} {e : Entry} (found : s.entry id = some e)
      (live : ¬ e.job.state.Terminal) : Turned config s (s.save id e.job)
  | finish {s : Site} {id : String} {e : Entry} {state : JobState} {code : Option String}
      (found : s.entry id = some e) (queued : e.job.state = .queued) (terminal : state.Terminal)
      (failed : state ≠ .succeeded) :
      Turned config s ((s.put id (e.terminal state code)).save id (e.terminal state code).job)
  | finishUnsaved {s : Site} {id : String} {e : Entry} {state : JobState} {code : Option String}
      (found : s.entry id = some e) (queued : e.job.state = .queued) (terminal : state.Terminal)
      (failed : state ≠ .succeeded) :
      Turned config s ((s.put id (e.terminal state code)).log [.unsaved id])
  | ask {s : Site} {id : String} {e : Entry} (found : s.entry id = some e)
      (active : e.job.state.Active) :
      Turned config s (((s.raise id true).put id e.asked).log (s.race id))
  | stop {s : Site} {id : String} {e : Entry} (found : s.entry id = some e)
      (active : e.job.state.Active) : Turned config s (s.raise id true)
  | shut (s : Site) : Turned config s s.shut
  | start {s : Site} {id : String} {e : Entry} (startable : Startable config s id e) :
      Turned config s (((((s.assign id e.job.deviceId).raise id false).put id e.starting).save id
        e.starting.job).place id .enter)
  | stall {s : Site} {id : String} {e : Entry} (startable : Startable config s id e) :
      Turned config s (((s.assign id e.job.deviceId).raise id false).put id e.starting)
  | turn {s : Site} {id : String} {e : Entry} {pc : Pc} {call : Call} {move : Move}
      (found : s.entry id = some e) (worker : s.pc id = some pc)
      (step : pc.step e (s.flag id) call = some move) (unsaved : move.saves = none) :
      Turned config s (s.turn id move.entry pc move.next)
  | turnSaved {s : Site} {id : String} {e : Entry} {pc failed : Pc} {call : Call} {move : Move}
      (found : s.entry id = some e) (worker : s.pc id = some pc)
      (step : pc.step e (s.flag id) call = some move) (saves : move.saves = some failed) :
      Turned config s ((s.turn id move.entry pc move.next).save id move.entry.job)
  | turnFailed {s : Site} {id : String} {e : Entry} {pc failed : Pc} {call : Call} {move : Move}
      (found : s.entry id = some e) (worker : s.pc id = some pc)
      (step : pc.step e (s.flag id) call = some move) (saves : move.saves = some failed) :
      Turned config s ((s.turn id move.entry pc move.next).turn id move.entry pc failed)
  | release {s : Site} {id : String} {e : Entry} {retryBusy : Bool} (found : s.entry id = some e)
      (worker : s.pc id = some (.releasing retryBusy))
      (settled : retryBusy = false ∨ e.job.state.Terminal) :
      Turned config s (s.free id e.job.deviceId)
  | requeue {s : Site} {id : String} {e : Entry} (found : s.entry id = some e)
      (worker : s.pc id = some (.releasing true)) (unflagged : s.flag id = false) :
      Turned config s ((s.free id e.job.deviceId).put id e.queued)
  | giveUp {s : Site} {id : String} {e : Entry} {code : Option String} (found : s.entry id = some e)
      (worker : s.pc id = some (.releasing true)) (live : ¬ e.job.state.Terminal) :
      Turned config s (((s.free id e.job.deviceId).put id (e.terminal .cancelled code)).save id
        (e.terminal .cancelled code).job)
  | giveUpUnsaved {s : Site} {id : String} {e : Entry} {code : Option String}
      (found : s.entry id = some e) (worker : s.pc id = some (.releasing true))
      (live : ¬ e.job.state.Terminal) :
      Turned config s (((s.free id e.job.deviceId).put id (e.terminal .cancelled code)).log
        [.unsaved id])
  | abandon {s : Site} {id : String} {e : Entry} {pc : Pc} (found : s.entry id = some e)
      (worker : s.pc id = some pc) (alive : pc ≠ .dead) (live : ¬ e.job.state.Terminal) :
      Turned config s (s.put id e.abandoned)
  | recover {s : Site} {id : String} {job : Job} (absent : s.entry id = none)
      (found : s.saved id = some job) (terminal : job.state.Terminal) :
      Turned config s (s.add id (.recovered job s.queue.nextOrder))
  | interrupt {s : Site} {id : String} {job : Job} (absent : s.entry id = none)
      (found : s.saved id = some job) (live : ¬ job.state.Terminal) :
      Turned config s ((s.add id (.recovered job.interrupted s.queue.nextOrder)).save id
        job.interrupted)

abbrev Moves (config : Config) : Site → Site → Prop := Relation.ReflTransGen (Turned config)

/-- The queue is gone; what is left has come about like this. -/
def Lost (config : Config) (s t : Site) : Prop :=
  ∃ u, Moves config s u ∧ t.disk = u.disk ∧ t.faults = u.faults

/-- What a program of the queue does, however it ends. -/
def Does (config : Config) {α : Type} (p : Control α) (s : Site) : Prop :=
  p.wp (fun _ t => Moves config s t) (fun _ t => Moves config s t) (Lost config s) s

section Rules

variable {config : Config} {s t : Site} {id : String} {e : Entry}

theorem Lost.of_moves (moves : Moves config s t) : Lost config s t := ⟨t, moves, rfl, rfl⟩

theorem Lost.before {u : Site} (moves : Moves config s t) (lost : Lost config t u) :
    Lost config s u := by
  obtain ⟨v, later, disk, faults⟩ := lost
  exact ⟨v, moves.trans later, disk, faults⟩

theorem Does.after {α : Type} {p : Control α} (moves : Moves config s t) (does : Does config p t) :
    p.wp (fun _ u => Moves config s u) (fun _ u => Moves config s u) (Lost config s) t :=
  Prog.wp_mono does (fun _ _ => moves.trans) (fun _ _ => moves.trans) fun _ => Lost.before moves

theorem wp_persist {Q : Unit → Site → Prop} {R : Failure → Site → Prop} {C : Site → Prop}
    (found : s.entry id = some e) (hq : Q () (s.save id e.job)) (hr : ∀ f, R f s)
    (hc : C s ∧ C (s.save id e.job)) : (persist id).wp Q R C s := by
  unfold persist
  rw [Prog.wp_bind, Prog.wp_read, found]
  simp only [Prog.wp_bind, Prog.wp_answer]
  exact fun fate => Prog.wp_commit hq (hr _) hc

theorem persist_does (found : s.entry id = some e) (live : ¬ e.job.state.Terminal) :
    Does config (persist id) s := by
  have step : Moves config s (s.save id e.job) := .single (.save found live)
  exact wp_persist found step (fun _ => .refl) ⟨.of_moves .refl, .of_moves step⟩

theorem wp_terminal {state : JobState} {code : Option String} {Q : Unit → Site → Prop}
    {R : Failure → Site → Prop} {C : Site → Prop} (found : s.entry id = some e)
    (live : ¬ e.job.state.Terminal)
    (hq : Q () ((s.put id (e.terminal state code)).save id (e.terminal state code).job))
    (hr : ∀ f, R f ((s.put id (e.terminal state code)).log [.unsaved id]))
    (hc : C (s.put id (e.terminal state code)) ∧
      C ((s.put id (e.terminal state code)).save id (e.terminal state code).job)) :
    (terminal id state code).wp Q R C s := by
  unfold terminal
  rw [Prog.wp_bind, Prog.wp_read, found]
  simp only [if_neg live, Prog.wp_bind, Prog.wp_modify, Prog.wp_rescue, Prog.wp_raise]
  have here : (s.put id (e.terminal state code)).entry id = some (e.terminal state code) := by
    rw [Site.entry_put, if_pos rfl]
  exact wp_persist here hq hr hc

/-- A queued job is ended without a worker. -/
theorem finish_does {state : JobState} {code : Option String} (found : s.entry id = some e)
    (queued : e.job.state = .queued) (terminal : state.Terminal) (failed : state ≠ .succeeded) :
    Does config (Jobs.terminal id state code) s := by
  have live : ¬ e.job.state.Terminal := by
    rw [queued]
    exact not_false
  have step : Moves config s _ := .single (@Turned.finish _ s id e state code found queued terminal failed)
  exact wp_terminal found live step
    (fun _ => .single (.finishUnsaved found queued terminal failed))
    ⟨⟨s, .refl, rfl, rfl⟩, .of_moves step⟩

theorem submit_does {owner requestId recordingId recordingDigest deviceId : String} {repeats : Nat}
    {bound : Bool} :
    Does config (submit config owner requestId id recordingId recordingDigest deviceId repeats bound)
      s := by
  unfold submit
  rw [Does, Prog.wp_bind, Prog.wp_ensure]
  refine ⟨fun positive => ?_, fun _ => .refl⟩
  rw [Prog.wp_bind, Prog.wp_read, Prog.wp_bind, Prog.wp_ensure]
  refine ⟨fun _ => ?_, fun _ => .refl⟩
  split
  · exact .refl
  · rw [Prog.wp_bind, Prog.wp_ensure]
    refine ⟨fun _ => ?_, fun _ => .refl⟩
    rw [Prog.wp_bind, Prog.wp_ensure]
    refine ⟨fun new => ?_, fun _ => .refl⟩
    dsimp only
    rw [Prog.wp_bind, Prog.wp_modify]
    have step : Moves config s (s.add id (.new owner requestId recordingId recordingDigest deviceId
        repeats s.queue.nextOrder)) :=
      .single (.add (Dict.get?_eq_none.mpr new.2.1) (Dict.get?_eq_none.mpr new.2.2) positive.1)
    exact Does.after step (persist_does (Site.entry_add.trans (if_pos rfl)) fun terminal => terminal)

theorem cancel_does {owner : String} : Does config (cancel id owner) s := by
  unfold cancel
  rw [Does, Prog.wp_bind, Prog.wp_read]
  cases found : s.entry id with
  | none => exact .refl
  | some e =>
    dsimp only
    rw [Prog.wp_bind, Prog.wp_ensure]
    refine ⟨fun _ => ?_, fun _ => .refl⟩
    split
    · exact .refl
    · rename_i live
      split
      · rename_i queued
        exact finish_does found queued trivial nofun
      · rename_i unqueued
        have active : e.job.state.Active := by
          cases state : e.job.state <;> simp_all [JobState.Terminal, JobState.Active]
        rw [Prog.wp_bind, Prog.wp_modify]
        refine Does.after (.single (.ask found active)) (persist_does ?_ (show ¬ e.asked.job.state.Terminal from live))
        rw [Site.entry_log, Site.entry_put, if_pos rfl]
        rfl

theorem expire_does {pass : Pass} {ids : List String} : Does config (pass.expire ids) s := by
  induction ids generalizing s with
  | nil => exact .refl
  | cons id ids ih =>
    unfold Pass.expire
    rw [Does, Prog.wp_bind, Prog.wp_read]
    cases found : s.entry id with
    | none => exact ih
    | some e =>
      dsimp only
      split
      · rename_i due
        rw [Prog.wp_bind]
        exact Prog.wp_mono (finish_does found due.1 trivial nofun)
          (fun _ _ moves => Does.after moves ih) (fun _ _ moves => moves) fun _ lost => lost
      · exact ih

theorem start_does (startable : Startable config s id e) :
    Does config (Pass.start id e) s := by
  unfold Pass.start
  rw [Does, Prog.wp_bind, Prog.wp_modify, Prog.wp_bind]
  have here : (((s.assign id e.job.deviceId).raise id false).put id e.starting).entry id =
      some e.starting := by
    rw [Site.entry_put, if_pos rfl]
  have stall : Moves config s _ := .single (.stall startable)
  have start : Moves config s _ := .single (.start startable)
  exact wp_persist here start (fun _ => stall) ⟨.of_moves stall, ⟨_, start, rfl, rfl⟩⟩

theorem consider_does {pass : Pass} {queued taken ids : List String}
    (same : s.queue.assigned.keys = taken) (room : taken.length < config.maxRunning)
    (listed : ∀ k e', s.entry k = some e' → e'.job.state = .queued → k ∈ queued)
    (still : ∀ k ∈ ids, ∃ e', s.entry k = some e' ∧ e'.job.state = .queued) (nodup : ids.Nodup) :
    Does config (pass.consider queued taken ids) s := by
  induction ids generalizing s with
  | nil => exact .refl
  | cons id ids ih =>
    obtain ⟨e, found, waiting⟩ := still id List.mem_cons_self
    obtain ⟨other, nodup⟩ := List.nodup_cons.mp nodup
    have rest : ∀ k ∈ ids, ∃ e', s.entry k = some e' ∧ e'.job.state = .queued :=
      fun k mem => still k (List.mem_cons_of_mem _ mem)
    unfold Pass.consider
    rw [Does, Prog.wp_bind, Prog.wp_read, found]
    dsimp only
    split
    · exact ih same listed rest nodup
    · rename_i chosen
      simp only [not_or] at chosen
      split
      · have ended : ∀ k e', ((s.put id (e.terminal .failed (some "authorization_revoked"))).save id
            (e.terminal .failed (some "authorization_revoked")).job).entry k = some e' →
            e'.job.state = .queued → k ∈ queued := by
          intro k e' found' waiting'
          rw [Site.entry_save, Site.entry_put] at found'
          split at found'
          · cases found'
            cases waiting'
          · exact listed k e' found' waiting'
        have live : ¬ e.job.state.Terminal := by
          rw [waiting]
          exact not_false
        have step : Moves config s _ := .single
          (@Turned.finish _ s id e .failed (some "authorization_revoked") found waiting trivial nofun)
        rw [Prog.wp_bind]
        refine wp_terminal found live ?_
          (fun _ => .single (.finishUnsaved found waiting trivial nofun))
          ⟨⟨s, .refl, rfl, rfl⟩, .of_moves step⟩
        refine Does.after step (ih same ended (fun k mem => ?_) nodup)
        obtain ⟨e', found', waiting'⟩ := rest k mem
        refine ⟨e', ?_, waiting'⟩
        rw [Site.entry_save, Site.entry_put, if_neg, found']
        rintro rfl
        exact other mem
      · refine start_does ⟨found, waiting, ?_, ?_, fun k e' found' device waiting' => ?_⟩
        · rw [same]
          exact chosen.1
        · rw [same]
          exact room
        · by_contra younger
          refine chosen.2.2.1 ⟨e', ?_, device, waiting', Nat.lt_of_not_le younger⟩
          exact List.mem_filterMap.mpr ⟨k, listed k e' found' waiting', found'⟩

theorem mem_queued {queue : Queue} :
    id ∈ Pass.queued queue ↔ ∃ e, queue.jobs.get? id = some e ∧ e.job.state = .queued := by
  simp [Pass.queued, Dict.mem_entries]

theorem nodup_queued {queue : Queue} : (Pass.queued queue).Nodup := by
  have permuted := (List.mergeSort_perm (queue.jobs.entries.filter fun e => e.2.job.state = .queued)
    fun a b => a.2.order ≤ b.2.order).map Prod.fst
  refine permuted.nodup_iff.mpr (queue.jobs.nodup.sublist ?_)
  exact List.Sublist.map _ List.filter_sublist

theorem dispatch_does {pass : Pass} : Does config (dispatch config pass) s := by
  unfold dispatch
  rw [Does, Prog.wp_bind, Prog.wp_read, Prog.wp_bind]
  refine Prog.wp_mono expire_does (fun _ t moves => ?_) (fun _ _ moves => moves) fun _ lost => lost
  rw [Prog.wp_bind, Prog.wp_read]
  split
  · rename_i room
    refine Does.after moves (consider_does rfl room (fun k e found waiting => ?_) (fun k mem => ?_)
      nodup_queued)
    · exact mem_queued.mpr ⟨e, found, waiting⟩
    · exact mem_queued.mp mem
  · exact moves

theorem release_does {retryBusy : Bool} (found : s.entry id = some e)
    (worker : s.pc id = some (.releasing retryBusy)) : Does config (release id e retryBusy) s := by
  unfold release
  rw [Does, Prog.wp_bind, Prog.wp_read, Prog.wp_bind, Prog.wp_modify]
  cases retryBusy with
  | false => exact .single (.release found worker (.inl rfl))
  | true =>
    rw [if_pos rfl]
    split
    · by_cases live : e.job.state.Terminal
      · unfold terminal
        rw [Prog.wp_bind, Prog.wp_read, Site.entry_free, found]
        simp only [if_pos live]
        exact .single (.release found worker (.inr live))
      · have step : Moves config s _ :=
          .single (@Turned.giveUp _ s id e (some "cancelled") found worker live)
        exact wp_terminal found live step (fun _ => .single (.giveUpUnsaved found worker live))
          ⟨⟨s, .refl, rfl, rfl⟩, .of_moves step⟩
    · rename_i calm
      rw [not_or] at calm
      rw [Prog.wp_bind, Prog.wp_modify]
      refine Does.after (.single (.requeue found worker (Bool.eq_false_iff.mpr calm.1)))
        (@persist_does _ _ _ e.queued ?_ not_false)
      exact Site.entry_put.trans (if_pos rfl)

/-- A step that writes the job is not itself worth knowing of. -/
theorem saves_faults {pc failed : Pc} {flag : Bool} {call : Call} {move : Move}
    (step : pc.step e flag call = some move) (saves : move.saves = some failed) :
    pc.faults id move.entry move.next = [] := by
  cases pc with
  | saving session =>
    cases call <;> cases step
    rfl
  | starting session controller =>
    cases call <;> cases step
    rfl
  | keeping session run replayId expected document =>
    cases call <;> cases step
    rfl
  | leaving session outcome =>
    cases call <;> cases session <;> cases step
    · cases saves
    · rfl
  | ending outcome retryBusy =>
    cases call <;> simp only [Pc.step] at step <;> try cases step
    split at step <;> cases step
    · cases saves
    · rfl
  | enter | polling | checking | waiting | releasing | dead =>
    cases call <;> cases step <;> cases saves
  | closing =>
    cases call with
    | closed reply =>
      rcases reply with e | closed
      · cases step
        cases saves
      · cases closed <;> cases step <;> cases saves
    | _ => cases step
  | _ =>
    cases call <;> try (rename_i reply; cases reply)
    all_goals simp only [Pc.step, reduceCtorEq] at step
    all_goals (repeat' split at step) <;> cases step <;> cases saves

theorem work_does {call : Call} : Does config (work id call) s := by
  unfold work
  rw [Does, Prog.wp_bind, Prog.wp_read]
  split
  · rename_i worker found
    split
    · exact release_does found worker
    · exact .refl
  · rename_i pc e _ worker found
    split
    · exact .refl
    · rename_i move step
      rw [Prog.wp_bind, Prog.wp_modify]
      split
      · rename_i unsaved
        exact .single (.turn found worker step unsaved)
      · rename_i failed saves
        have here : (s.turn id move.entry pc move.next).entry id = some move.entry := by
          rw [Site.turn, Site.entry_log, Site.entry_place, Site.entry_put, if_pos rfl]
        have saved : Moves config s _ := .single (.turnSaved found worker step saves)
        rw [Prog.wp_rescue]
        refine wp_persist here saved (fun _ => ?_) ⟨?_, .of_moves saved⟩
        · exact .single (.turnFailed found worker step saves)
        · exact ⟨s, .refl, rfl, by simp [Site.turn, Site.log, saves_faults step saves]; rfl⟩
  · exact .refl

theorem closeJobs_does {ids : List String} : Does config (closeJobs ids) s := by
  induction ids generalizing s with
  | nil => exact .refl
  | cons id ids ih =>
    unfold closeJobs
    rw [Does, Prog.wp_bind, Prog.wp_read]
    cases found : s.entry id with
    | none => exact ih
    | some e =>
      dsimp only
      split
      · rename_i queued
        rw [Prog.wp_bind]
        exact Prog.wp_mono (finish_does found queued trivial nofun)
          (fun _ _ moves => Does.after moves ih) (fun _ _ moves => moves) fun _ lost => lost
      · split
        · rename_i active
          rw [Prog.wp_bind, Prog.wp_modify]
          exact Does.after (.single (.stop found active)) ih
        · exact ih

theorem close_does : Does config close s := by
  unfold close
  rw [Does, Prog.wp_bind, Prog.wp_read]
  split
  · exact .refl
  · rw [Prog.wp_bind, Prog.wp_modify]
    exact Does.after (.single (.shut s)) closeJobs_does

theorem abandon_does {alive : String → Bool} {ids : List String} :
    Does config (abandon alive ids) s := by
  induction ids generalizing s with
  | nil => exact .refl
  | cons id ids ih =>
    unfold abandon
    rw [Does, Prog.wp_bind, Prog.wp_read]
    split
    · rename_i e pc found worker
      split
      · rename_i unfinished
        rw [Prog.wp_bind, Prog.wp_modify, Prog.wp_bind]
        have step : Moves config s (s.put id e.abandoned) :=
          .single (.abandon found worker unfinished.2.1 unfinished.1)
        have here : (s.put id e.abandoned).entry id = some e.abandoned := by
          rw [Site.entry_put, if_pos rfl]
        refine Prog.wp_mono (Does.after step (persist_does here not_false)) ?_ (fun _ _ h => h)
          fun _ h => h
        exact fun _ _ moves => Does.after moves ih
      · exact ih
    · exact ih

/-- A queue that could not be loaded is not there. -/
def Loads (config : Config) {α : Type} (p : Control α) (s : Site) : Prop :=
  p.wp (fun _ t => Moves config s t) (fun _ t => Lost config s t) (Lost config s) s

theorem Loads.after {α : Type} {p : Control α} (moves : Moves config s t)
    (loads : Loads config p t) :
    p.wp (fun _ u => Moves config s u) (fun _ u => Lost config s u) (Lost config s) t :=
  Prog.wp_mono loads (fun _ _ => moves.trans) (fun _ _ => Lost.before moves) fun _ => Lost.before moves

theorem load_loads {readable : String → Bool} {ids : List String}
    (absent : ∀ id ∈ ids, s.entry id = none) (nodup : ids.Nodup) :
    Loads config (load readable ids) s := by
  induction ids generalizing s with
  | nil => exact .refl
  | cons id ids ih =>
    obtain ⟨other, nodup⟩ := List.nodup_cons.mp nodup
    have rest : ∀ k ∈ ids, k ≠ id ∧ s.entry k = none := fun k mem =>
      ⟨fun same => other (same ▸ mem), absent k (List.mem_cons_of_mem _ mem)⟩
    unfold load
    rw [Loads, Prog.wp_bind, Prog.wp_read]
    cases found : s.saved id with
    | none => exact ih (fun k mem => (rest k mem).2) nodup
    | some job =>
      have here : s.entry id = none := absent id List.mem_cons_self
      have later : ∀ e, ∀ k ∈ ids, (s.add id e).entry k = none := fun e k mem => by
        rw [Site.entry_add, if_neg (rest k mem).1]
        exact (rest k mem).2
      dsimp only
      split
      · split
        · rename_i terminal
          rw [Prog.wp_bind, Prog.wp_modify]
          exact Loads.after (.single (.recover here found terminal)) (ih (later _) nodup)
        · rename_i live
          rw [Prog.wp_bind, Prog.wp_modify, Prog.wp_bind]
          have step : Moves config s _ := .single (.interrupt here found live)
          have added : (s.add id (.recovered job.interrupted s.queue.nextOrder)).entry id =
              some (.recovered job.interrupted s.queue.nextOrder) := by
            rw [Site.entry_add, if_pos rfl]
          exact wp_persist added (Loads.after step (ih (later _) nodup))
            (fun _ => ⟨s, .refl, rfl, rfl⟩) ⟨⟨s, .refl, rfl, rfl⟩, .of_moves step⟩
      · exact ih (fun k mem => (rest k mem).2) nodup

end Rules

/-- The process has ended. -/
def Site.lost (s : Site) : Site := { s with queue := .empty }

/-- One thing that happens to a job, or the end of the process. -/
inductive Passes (config : Config) : Site → Site → Prop
  | turned {s t : Site} (turned : Turned config s t) : Passes config s t
  | lost (s : Site) : Passes config s s.lost

abbrev Leads (config : Config) : Site → Site → Prop := Relation.ReflTransGen (Passes config)

namespace World

variable {config : Config} {w : World} {event : Event}

def site (w : World) : Site := ⟨w.queue.getD .empty, w.disk, w.faults⟩

theorem leads_of_moves {s t : Site} (moves : Moves config s t) : Leads config s t :=
  Relation.ReflTransGen.mono (fun _ _ turned => Passes.turned turned) _ _ moves

theorem leads_of_lost {s t : Site} (lost : Lost config s t) : Leads config s t.lost := by
  obtain ⟨u, moves, disk, faults⟩ := lost
  have same : t.lost = u.lost := by
    simp only [Site.lost, disk, faults]
  rw [same]
  exact (leads_of_moves moves).tail (.lost u)

/-- The queue is there still and has made its moves, or the process has ended. -/
theorem serve_moves {disk : Dict String Job} {faults : List Fault} {queue : Queue}
    {p : Control Unit} {answers : List Fate} (does : Does config p ⟨queue, disk, faults⟩) :
    Moves config ⟨queue, disk, faults⟩ (serve disk faults queue p answers).site ∨
    (serve disk faults queue p answers).queue = none ∧
    Leads config ⟨queue, disk, faults⟩ (serve disk faults queue p answers).site := by
  have ends := Prog.run_wp does answers
  unfold serve
  split <;> rename_i outcome
  · rw [outcome] at ends
    exact .inl ends
  · rw [outcome] at ends
    exact .inl ends
  · rw [outcome] at ends
    exact .inr ⟨rfl, leads_of_lost ends⟩

theorem serve_leads {disk : Dict String Job} {faults : List Fault} {queue : Queue}
    {p : Control Unit} {answers : List Fate} (does : Does config p ⟨queue, disk, faults⟩) :
    Leads config ⟨queue, disk, faults⟩ (serve disk faults queue p answers).site := by
  rcases serve_moves does with moves | ⟨-, leads⟩
  · exact leads_of_moves moves
  · exact leads

theorem reopen_leads {disk : Dict String Job} {faults : List Fault} {readable : String → Bool}
    {answers : List Fate} :
    Leads config ⟨.empty, disk, faults⟩ (reopen disk faults readable answers).site := by
  have loads : Loads config (load readable (disk.keys.mergeSort (· ≤ ·))) ⟨.empty, disk, faults⟩ :=
    load_loads (fun _ _ => rfl) ((List.mergeSort_perm _ _).nodup_iff.mpr disk.nodup)
  have ends := Prog.run_wp loads answers
  unfold reopen
  split <;> rename_i outcome
  · rw [outcome] at ends
    exact leads_of_moves ends
  · rw [outcome] at ends
    exact leads_of_lost ends
  · rw [outcome] at ends
    exact leads_of_lost ends

theorem program_does {queue : Queue} {s : Site} : Does config (event.program config queue).1 s := by
  cases event with
  | submit => exact submit_does
  | cancel => exact cancel_does
  | dispatch => exact dispatch_does
  | work => exact work_does
  | close => exact close_does
  | abandon alive answers =>
    dsimp only [Event.program]
    split
    · exact abandon_does
    · exact .refl
  | restart => exact .refl

theorem apply_leads : Leads config w.site (w.apply config event).site := by
  unfold apply
  split
  · exact (Relation.ReflTransGen.single (.lost w.site)).trans reopen_leads
  · rename_i queue _ here
    have site : w.site = ⟨queue, w.disk, w.faults⟩ := by
      simp only [World.site, here, Option.getD_some]
    rw [site]
    exact serve_leads program_does
  · exact .refl

theorem run_append {events more : List Event} :
    run config (events ++ more) = more.foldl (apply config) (run config events) :=
  List.foldl_append

theorem foldl_leads {events : List Event} :
    Leads config w.site (events.foldl (apply config) w).site := by
  induction events generalizing w with
  | nil => exact .refl
  | cons event events ih => exact apply_leads.trans ih

end World

end Reproof.Live.Jobs

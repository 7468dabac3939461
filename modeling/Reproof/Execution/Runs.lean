import Mathlib.Data.List.Induction
import Reproof.Execution.Steps

/-! The runs of one journal root: the journal, and the process that holds the lock of its machine. -/

namespace Reproof.Execution

open Library Journal

/-- Where the holder of `.vm-lock` is: in the body of `admit`, on the way out of it, or between the
two halves of `reconcile`. -/
inductive Holder
  | running (run : OwnedRun)
  | leaving (run : OwnedRun)
  | recovering (run : OwnedRun)

def Holder.run : Holder → OwnedRun
  | running run | leaving run | recovering run => run

structure World where
  journal : Journal
  holder : Option Holder

/-- `finish` is a call in the body of `admit`, and `leave` is what `admit` does after its body;
`recover` is the second half of `reconcile`.  `contents` is what a run does to its own directory. -/
inductive World.Event
  | admitRun (operationId requestDigest : String) (diskBytes : Int) (answers : List Answer)
  | finish (outcome : RunState) (stopped : Bool) (answers : List Answer)
  | leave (answers : List Answer)
  | reconcile (operationId requestDigest : String) (machine : Option String)
      (answers : List Answer)
  | recover (answers : List Answer)
  | die
  | cancel (operationId requestDigest : String) (answers : List Answer)
  | bindScope (scope : Scope) (answers : List Answer)
  | contents (operationId : String) (directory : RunDirectory)

namespace World

/-- An exception in `admit` frees the lock, unless a run has to be finished first. -/
def admitted : Outcome Failure (OwnedRun × Bool) × List Answer × Journal → World
  | (.done (run, true), _, journal) => ⟨journal, some (.running run)⟩
  | (.done (run, false), _, journal) => ⟨journal, some (.leaving run)⟩
  | (.raised _, _, journal) => ⟨journal, none⟩
  | (.crashed, _, journal) => ⟨journal, none⟩

/-- The body of `admit` may go on after a `finish` that failed. -/
def finished (run : OwnedRun) : Outcome Failure OwnedRun × List Answer × Journal → World
  | (.done run, _, journal) => ⟨journal, some (.running run)⟩
  | (.raised _, _, journal) => ⟨journal, some (.running run)⟩
  | (.crashed, _, journal) => ⟨journal, none⟩

def reconciled : Outcome Failure (Record ⊕ OwnedRun) × List Answer × Journal → World
  | (.done (.inl _), _, journal) => ⟨journal, none⟩
  | (.done (.inr run), _, journal) => ⟨journal, some (.recovering run)⟩
  | (.raised _, _, journal) => ⟨journal, none⟩
  | (.crashed, _, journal) => ⟨journal, none⟩

section Apply

variable (store : RunStore)

def start : World := ⟨store.fresh, none⟩

/-- `admit` frees the lock however its last `finish` ends. -/
def leave (w : World) (run : OwnedRun) (answers : List Answer) : World :=
  if run.finished then ⟨w.journal, none⟩
  else ⟨((run.finish store .failed false).run answers w.journal).2.2, none⟩

def apply (w : World) : Event → World
  | .admitRun operationId requestDigest diskBytes answers =>
    match w.holder with
    | none => admitted ((store.admitRun operationId requestDigest diskBytes).run answers w.journal)
    | some _ => w
  | .finish outcome stopped answers =>
    match w.holder with
    | some (.running run) =>
      finished run ((run.finish store outcome stopped).run answers w.journal)
    | _ => w
  | .leave answers =>
    match w.holder with
    | some (.running run) | some (.leaving run) => w.leave store run answers
    | _ => w
  | .reconcile operationId requestDigest machine answers =>
    match w.holder with
    | none =>
      reconciled ((store.reconcile operationId requestDigest machine).run answers w.journal)
    | some _ => w
  | .recover answers =>
    match w.holder with
    | some (.recovering run) =>
      ⟨((run.finish store .failed true).run answers w.journal).2.2, none⟩
    | _ => w
  | .die => { w with holder := none }
  | .cancel operationId requestDigest answers =>
    { w with journal := ((store.cancel operationId requestDigest).run answers w.journal).2.2 }
  | .bindScope scope answers =>
    { w with journal := ((store.bindScope scope).run answers w.journal).2.2 }
  | .contents operationId directory =>
    if (w.journal.directories.get? operationId).isSome then
      { w with journal := { w.journal with
          directories := w.journal.directories.set operationId directory } }
    else w

def run (events : List Event) : World := events.foldl (apply store) (start store)

end Apply

variable {store : RunStore} {w : World}

def Held (w : World) : Prop := ∀ holder, w.holder = some holder → holder.run.Live w.journal

/-- What an event does to the journal, and to the holder of the lock. -/
structure Advances (store : RunStore) (j : Journal) (w : World) : Prop where
  moves : Moves store j w.journal
  held : w.Held

theorem Held.free {journal : Journal} : Held ⟨journal, none⟩ := fun _ held => nomatch held

theorem Held.of_runs {journal : Journal} (held : w.Held)
    (runs : journal.state.runs = w.journal.state.runs) : Held { w with journal } := by
  intro holder here unfinished
  obtain ⟨r, found, live⟩ := held holder here unfinished
  exact ⟨r, by rw [runs, found], live⟩

theorem admitted_advances {operationId requestDigest : String} {diskBytes : Int}
    {answers : List Answer} {j : Journal} :
    Advances store j
      (admitted ((store.admitRun operationId requestDigest diskBytes).run answers j)) := by
  have after := Prog.run_wp (@RunStore.wp_admit store j operationId requestDigest diskBytes) answers
  revert after
  generalize (store.admitRun operationId requestDigest diskBytes).run answers j = result
  rcases result with ⟨outcome, rest, t⟩
  cases outcome with
  | done admitted =>
    intro admits
    have recorded : ∀ holder : Holder, holder.run = admitted.1 → Held ⟨t, some holder⟩ := by
      rintro holder same _ ⟨⟩ -
      rw [same, admits.operation]
      exact admits.recorded
    rcases admitted with ⟨run, entered⟩
    cases entered with
    | true => exact ⟨.inl admits.quiet, recorded _ rfl⟩
    | false => exact ⟨.inl admits.quiet, recorded _ rfl⟩
  | raised e => exact fun quiet => ⟨.inl quiet, .free⟩
  | crashed => exact fun quiet => ⟨.inl quiet, .free⟩

theorem finished_advances {run : OwnedRun} {outcome : RunState} {stopped : Bool}
    {answers : List Answer} {j : Journal} (live : run.Live j) :
    Advances store j (finished run ((run.finish store outcome stopped).run answers j)) := by
  have after := Prog.run_wp (@OwnedRun.wp_finish store run j outcome stopped live) answers
  revert after
  generalize (run.finish store outcome stopped).run answers j = result
  rcases result with ⟨outcome, rest, t⟩
  cases outcome with
  | done run' =>
    rintro ⟨moves, done⟩
    refine ⟨moves, ?_⟩
    rintro holder ⟨⟩ unfinished
    cases done.symm.trans unfinished
  | raised e =>
    rintro ⟨quiet, state⟩
    refine ⟨.inl quiet, ?_⟩
    rintro holder ⟨⟩ unfinished
    obtain ⟨r, found, live⟩ := live unfinished
    exact ⟨r, (congrArg (·.runs.get? run.operationId) state).trans found, live⟩
  | crashed => exact fun moves => ⟨moves, .free⟩

theorem finish_moves {run : OwnedRun} {outcome : RunState} {stopped : Bool} {answers : List Answer}
    {j : Journal} (live : run.Live j) :
    Moves store j ((run.finish store outcome stopped).run answers j).2.2 :=
  Prog.run_after (Prog.wp_mono (OwnedRun.wp_finish live) (fun _ _ h => h.1) (fun _ _ h => .inl h.1)
    fun _ h => h) answers

theorem leave_advances {run : OwnedRun} {answers : List Answer} (live : run.Live w.journal) :
    Advances store w.journal (w.leave store run answers) := by
  unfold leave
  split
  · exact ⟨.inl .refl, .free⟩
  · exact ⟨finish_moves live, .free⟩

theorem reconciled_advances {operationId requestDigest : String} {machine : Option String}
    {answers : List Answer} {j : Journal} :
    Advances store j
      (reconciled ((store.reconcile operationId requestDigest machine).run answers j)) := by
  have after :=
    Prog.run_wp (@RunStore.wp_reconcile store j operationId requestDigest machine) answers
  revert after
  generalize (store.reconcile operationId requestDigest machine).run answers j = result
  rcases result with ⟨outcome, rest, t⟩
  cases outcome with
  | done outcome =>
    cases outcome with
    | inl record =>
      rintro ⟨⟩
      exact ⟨.inl .refl, .free⟩
    | inr run =>
      rintro ⟨rfl, same, -, recorded⟩
      refine ⟨.inl .refl, ?_⟩
      rintro holder ⟨⟩ -
      rw [Holder.run, same]
      exact recorded
  | raised e =>
    rintro ⟨⟩
    exact ⟨.inl .refl, .free⟩
  | crashed =>
    rintro ⟨⟩
    exact ⟨.inl .refl, .free⟩

theorem apply_advances (held : w.Held) (event : Event) :
    Advances store w.journal (w.apply store event) := by
  have idle : Advances store w.journal w := ⟨.inl .refl, held⟩
  rcases w with ⟨journal, holder⟩
  cases event with
  | admitRun operationId requestDigest diskBytes answers =>
    cases holder with
    | none => exact admitted_advances
    | some holder => exact idle
  | finish outcome stopped answers =>
    cases holder with
    | none => exact idle
    | some holder =>
      cases holder with
      | running run => exact finished_advances (held _ rfl)
      | leaving run => exact idle
      | recovering run => exact idle
  | leave answers =>
    cases holder with
    | none => exact idle
    | some holder =>
      cases holder with
      | running run => exact leave_advances (held _ rfl)
      | leaving run => exact leave_advances (held _ rfl)
      | recovering run => exact idle
  | reconcile operationId requestDigest machine answers =>
    cases holder with
    | none => exact reconciled_advances
    | some holder => exact idle
  | recover answers =>
    cases holder with
    | none => exact idle
    | some holder =>
      cases holder with
      | running run => exact idle
      | leaving run => exact idle
      | recovering run => exact ⟨finish_moves (held _ rfl), .free⟩
  | die => exact ⟨.inl .refl, .free⟩
  | cancel operationId requestDigest answers =>
    obtain ⟨quiet, runs⟩ := Prog.run_after
      (@RunStore.wp_cancel store journal operationId requestDigest) answers
    exact ⟨.inl quiet, held.of_runs runs⟩
  | bindScope scope answers =>
    obtain ⟨quiet, runs⟩ := Prog.run_after (@RunStore.wp_bindScope store journal scope) answers
    exact ⟨.inl quiet, held.of_runs runs⟩
  | contents operationId directory =>
    unfold apply
    dsimp only
    split
    · rename_i present
      obtain ⟨old, present⟩ := Option.isSome_iff_exists.mp present
      exact ⟨.inl (.single (.contents present)), held.of_runs rfl⟩
    · exact idle

theorem run_snoc {events : List Event} {event : Event} :
    run store (events ++ [event]) = (run store events).apply store event := by
  rw [run, List.foldl_append]
  rfl

theorem run_held (events : List Event) : (run store events).Held := by
  induction events using List.reverseRecOn with
  | nil => exact .free
  | append_singleton events event ih =>
    rw [run_snoc]
    exact (apply_advances ih event).held

end World

end Reproof.Execution

import Mathlib.Algebra.BigOperators.Group.List.Basic
import Reproof.Repair.Diagnostics.Sessions

/-! What a derived document shows of each session, and that the second check accepts it. -/

namespace Reproof.Repair.Diagnostics

open Library Contracts Execution.Wire

variable {python : Interpreter} {policy : DiagnosticPolicy} {remaining : Nat}
  {sessions : List (AppLog × List String)} {runs : List DiagnosticRun} {logs : List AppLog}
  {event : LogEvent} {events : List LogEvent} {field : String} {fields selected sources : List String}

/-- What a run shows of the last snapshot of its session, while `remaining` events may be shown. -/
structure DiagnosticRun.Shows (policy : DiagnosticPolicy) (remaining : Nat) (value : AppLog)
    (run : DiagnosticRun) : Prop where
  truncated : run.truncated = value.truncated
  lostEvents : run.lostEvents = value.lostEvents
  total : run.totalEvents = value.events.length
  events : run.events = (value.events.take remaining).map policy.select
  omitted : run.omittedEvents = run.totalEvents - run.events.length

/-- The runs show the sessions one after the other, within one budget of events. -/
inductive Budgeted (policy : DiagnosticPolicy) : Nat → List AppLog → List DiagnosticRun → Prop
  | nil {n} : Budgeted policy n [] []
  | cons {n value run rest later} : run.Shows policy n value →
      Budgeted policy (n - value.events.length) rest later →
      Budgeted policy n (value :: rest) (run :: later)

theorem runsOf_budgeted (derived : runsOf python policy remaining sessions = .ok runs) :
    Budgeted policy remaining (sessions.map Prod.fst) runs := by
  induction sessions generalizing remaining runs with
  | nil =>
    cases derived
    exact .nil
  | cons session sessions ih =>
    obtain ⟨value, digests⟩ := session
    simp only [runsOf, bind_eq_ok, pure_eq_ok] at derived
    obtain ⟨runDigest, -, more, rest, rfl⟩ := derived
    have left : remaining - (value.events.take remaining).length = remaining - value.events.length := by
      rw [List.length_take]
      omega
    rw [left] at rest
    exact .cons ⟨rfl, rfl, rfl, rfl, rfl⟩ (ih rest)

/-- As many events are shown as the budget allows. -/
theorem Budgeted.limit (budgeted : Budgeted policy remaining logs runs) :
    (runs.map (·.events.length)).sum = min remaining (logs.map (·.events.length)).sum := by
  induction budgeted with
  | nil => simp
  | cons shows _ ih =>
    rw [List.map_cons, List.sum_cons, List.map_cons, List.sum_cons, ih, shows.events, List.length_map,
      List.length_take]
    omega

section Fields

/-- What the policy shows under a field. -/
def DiagnosticPolicy.shown (self : DiagnosticPolicy) (event : LogEvent) (field : String) : Json :=
  if field = "target" then self.masked (event.get field) else event.get field

theorem select_eq : policy.select event = policy.eventFields.map fun field => (field, policy.shown event field) := by
  rw [DiagnosticPolicy.select, DiagnosticPolicy.mask, List.map_map]
  rfl

theorem find_map {g : String → Json} (mem : field ∈ fields) :
    (fields.map fun field => (field, g field)).find? (fun pair => pair.1 = field) = some (field, g field) := by
  induction fields with
  | nil => cases mem
  | cons first fields ih =>
    rw [List.map_cons]
    cases List.mem_cons.mp mem with
    | inl same =>
      subst same
      exact List.find?_cons_of_pos (decide_eq_true rfl)
    | inr later =>
      by_cases same : first = field
      · subst same
        exact List.find?_cons_of_pos (decide_eq_true rfl)
      · rw [List.find?_cons_of_neg (by simpa using same)]
        exact ih later

theorem item_map {g : String → Json} (mem : field ∈ fields) :
    item (fields.map fun field => (field, g field)) field = .ok (g field) := by
  rw [item, find_map mem]
  rfl

theorem item_select (mem : field ∈ policy.eventFields) :
    item (policy.select event) field = .ok (policy.shown event field) := by
  rw [select_eq, item_map mem]

theorem exactly_select : exactly (.dict (policy.select event)) policy.eventFields = .ok (policy.select event) := by
  rw [select_eq, exactly]
  simp only [bind_eq_ok, require_eq_ok, pure_eq_ok, List.map_map, Function.comp_def, List.map_id',
    List.Perm.refl, exists_const, and_self]

end Fields

section Accepted

variable {click screen : List String} {sequence time previous : Int}

/-- A masked target may be shown. -/
theorem targetOf_masked (click : AreTargets policy.clickTargets) (screen : AreTargets policy.screenTargets) :
    ∃ target, targetOf (policy.masked (event.get "target")) = .ok target ∧ ∀ name ∈ target, isDotted 0 79 name := by
  have value : event.get "target" = (event.target.map .str).getD .null := rfl
  rw [value]
  cases event.target with
  | none => exact ⟨none, rfl, nofun⟩
  | some target =>
    change ∃ found, targetOf (if target ∈ policy.clickTargets ++ policy.screenTargets then .str target
      else .null) = .ok found ∧ _
    split
    · rename_i mem
      refine ⟨some target, rfl, fun name same => ?_⟩
      cases same
      exact (List.mem_append.mp mem).elim (click.2.1 target) (screen.2.1 target)
    · exact ⟨none, rfl, nofun⟩

theorem checkShown_select (selection : IsSelection policy.eventFields)
    (click : AreTargets policy.clickTargets) (screen : AreTargets policy.screenTargets)
    (seq : event.seq = sequence) (elapsed : "elapsedMs" ∈ policy.eventFields →
      previous ≤ event.elapsedMs ∧ event.elapsedMs ≤ maxAppLogDurationMs)
    (component : event.component ∈ components)
    (named : event.type = "lifecycle" ∧ event.name ∈ lifecycleNames ∨
      event.type = "screen" ∧ event.name ∈ screenNames ∨ event.type = "click" ∧ event.name ∈ clickNames) :
    checkShown policy.eventFields sequence previous (.dict (policy.select event)) =
      .ok (if "elapsedMs" ∈ policy.eventFields then event.elapsedMs else previous) := by
  have present (field : String) (required : field ∈ requiredEventFields) : field ∈ policy.eventFields :=
    selection.2.2.2 field required
  have name : event.name ∈ namesOf event.type := by
    rcases named with ⟨type, name⟩ | ⟨type, name⟩ | ⟨type, name⟩ <;> rw [type] <;> exact name
  have timed : checkElapsed policy.eventFields previous (policy.select event) =
      .ok (if "elapsedMs" ∈ policy.eventFields then event.elapsedMs else previous) := by
    rw [checkElapsed]
    split
    · rename_i mem
      simp only [bind_eq_ok, require_eq_ok, pure_eq_ok, item_select mem, Except.ok.injEq, exists_eq_left']
      exact ⟨event.elapsedMs, rfl, (), elapsed mem, rfl⟩
    · rfl
  have part : checkPart policy.eventFields (policy.select event) = .ok () := by
    rw [checkPart]
    split
    · rename_i mem
      simp only [bind_eq_ok, require_eq_ok, item_select mem, Except.ok.injEq, exists_eq_left']
      exact ⟨event.component, rfl, component⟩
    · rfl
  have target : checkShownTarget policy.eventFields (policy.select event) = .ok () := by
    rw [checkShownTarget]
    split
    · rename_i mem
      simp only [bind_eq_ok, require_eq_ok, item_select mem, Except.ok.injEq, exists_eq_left']
      exact targetOf_masked click screen
    · rfl
  simp only [checkShown, bind_eq_ok, require_eq_ok, pure_eq_ok, exactly_select,
    item_select (present "seq" (by decide)), item_select (present "type" (by decide)),
    item_select (present "name" (by decide)), Except.ok.injEq, exists_eq_left', timed, part, target]
  exact ⟨event.seq, rfl, (), seq, event.type, rfl, event.name, rfl, (), name, (), trivial, (), trivial, trivial⟩

/-- The events of a checked log are accepted as the policy shows them. -/
theorem checkShownAll_select (selection : IsSelection policy.eventFields)
    (targets : AreTargets policy.clickTargets) (targets' : AreTargets policy.screenTargets)
    (checked : checkEvents click screen sequence time events = .ok ())
    (same : "elapsedMs" ∈ policy.eventFields → previous = time) :
    checkShownAll policy.eventFields sequence previous (events.map fun event => .dict (policy.select event)) =
      .ok () := by
  induction events generalizing sequence time previous with
  | nil => rfl
  | cons event events ih =>
    simp only [checkEvents, bind_eq_ok, require_eq_ok] at checked
    obtain ⟨-, ⟨seq, elapsed, component, -⟩, ⟨⟩, allowed, rest⟩ := checked
    rw [List.map_cons, checkShownAll, checkShown_select selection targets targets' seq
      (fun mem => same mem ▸ elapsed) component (checkTarget_named allowed)]
    exact ih rest fun mem => if_pos mem

theorem checkEvents_take {n : Nat} (checked : checkEvents click screen sequence time events = .ok ()) :
    checkEvents click screen sequence time (events.take n) = .ok () := by
  induction events generalizing sequence time n with
  | nil => rwa [List.take_nil]
  | cons event events ih =>
    cases n with
    | zero => rfl
    | succ n =>
      simp only [List.take_succ_cons, checkEvents, bind_eq_ok] at checked ⊢
      obtain ⟨_, first, _, allowed, rest⟩ := checked
      exact ⟨(), first, (), allowed, ih rest⟩

end Accepted

end Reproof.Repair.Diagnostics

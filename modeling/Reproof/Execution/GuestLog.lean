import Reproof.Execution.Transfer

/-! The loop of the guest executor that reads the output of a recipe process, and what the digest of
its report covers. -/

namespace Reproof.Execution.GuestLog

open Contracts

def maxLogBytes : Nat := 1024 * 1024

/-- What the agent prints once its probe runs. -/
def probeRunning : Bytes := utf8 "repro-probe-running\n"

/-- Where `execute` stands: at the top of its loop, before the select, the read and the poll, after
the loop, and past its end. -/
inductive Phase
  | loop | selecting | reading | polling | left | returned | raised
  deriving DecidableEq

/-- The loop is not left yet. -/
def Phase.Active : Phase → Prop
  | .left | .returned | .raised => False
  | _ => True

structure Report where
  exitCode : Int
  outputTruncated : Bool
  logDigest : String
  deriving DecidableEq

/-- The process with its pipe, and the local variables of `execute`; `log` is what the hash was
updated with. -/
structure Guest where
  written : Bytes
  pipe : Bytes
  closed : Bool
  returncode : Option Int
  cancelled : Bool
  expired : Bool
  phase : Phase
  log : Bytes
  count : Nat
  truncated : Bool
  interrupted : Bool
  readiness : Bytes
  announced : Bool
  result : Option Report

def Guest.start : Guest :=
  ⟨[], [], false, none, false, false, .loop, [], 0, false, false, [], false, none⟩

/-- What the process, its descendants, the clock and the executor do, in any order. A read returns
some of the bytes that are there; `started` and `done` say that the calls made there did not
raise. -/
inductive Step
  | write (raw : Bytes)
  | close
  | exit (code : Int)
  | cancel
  | expire
  | check
  | select
  | read (available : Nat) (started : Bool)
  | poll
  | finish (done : Bool)
  deriving DecidableEq

namespace Guest

/-- The end of what is read, after `log.update`. -/
def announce (g : Guest) (onStarted : Bool) (raw : Bytes) (started : Bool) : Guest :=
  if onStarted ∧ ¬ g.announced ∧ g.readiness.length < 64 then
    let readiness := g.readiness ++ raw.take (64 - g.readiness.length)
    if probeRunning.isPrefixOf readiness then
      { g with readiness, announced := started, phase := if started then .polling else .raised }
    else { g with readiness, phase := .polling }
  else { g with phase := .polling }

/-- `os.read` and what follows it. -/
def receive (g : Guest) (onStarted : Bool) (raw : Bytes) (started : Bool) : Guest :=
  let g := { g with pipe := g.pipe.drop raw.length, count := g.count + raw.length }
  if g.count > maxLogBytes then { g with truncated := true, phase := .left }
  else ({ g with log := g.log ++ raw }).announce onStarted raw started

def chunk (g : Guest) (available : Nat) : Bytes :=
  g.pipe.take (min (min 65536 (maxLogBytes - g.count + 1)) (max 1 available))

/-- What is reported once the process is terminated. -/
def report (python : Interpreter) (g : Guest) : Report :=
  let code := if g.interrupted ∨ g.truncated then 124 else g.returncode.getD 0
  ⟨max (-255) (min 255 code), g.truncated, python.sha256 g.log⟩

/-- A step that cannot be taken changes nothing. -/
def apply (python : Interpreter) (onStarted : Bool) (g : Guest) : Step → Guest
  | .write raw =>
    if g.returncode = none ∧ ¬ g.closed then
      { g with written := g.written ++ raw, pipe := g.pipe ++ raw }
    else g
  | .close => { g with closed := true }
  | .exit code => if g.returncode = none then { g with returncode := some code } else g
  | .cancel => { g with cancelled := true }
  | .expire => { g with expired := true }
  | .check =>
    if g.phase = .loop then
      if g.cancelled ∨ g.expired then { g with interrupted := true, phase := .left }
      else { g with phase := .selecting }
    else g
  | .select =>
    if g.phase = .selecting then
      { g with phase := if g.pipe ≠ [] ∨ g.closed then .reading else .polling }
    else g
  | .read available started =>
    if g.phase = .reading then g.receive onStarted (g.chunk available) started else g
  | .poll =>
    if g.phase = .polling then
      { g with phase := if g.returncode.isSome then .left else .loop }
    else g
  | .finish done =>
    if g.phase = .left then
      if done ∧ ¬ g.cancelled then
        { g with phase := .returned, result := some (g.report python) }
      else { g with phase := .raised }
    else g

def run (python : Interpreter) (onStarted : Bool) (steps : List Step) (g : Guest) : Guest :=
  steps.foldl (apply python onStarted) g

/-- Whenever a poll sees that the process exited, nothing is left in the pipe. -/
def Drains (python : Interpreter) (onStarted : Bool) : List Step → Guest → Prop
  | [], _ => True
  | step :: steps, g =>
    (step = .poll → g.phase = .polling → g.returncode.isSome → g.pipe = []) ∧
      Drains python onStarted steps (g.apply python onStarted step)

def decideDrains (python : Interpreter) (onStarted : Bool) :
    (steps : List Step) → (g : Guest) → Decidable (Drains python onStarted steps g)
  | [], _ => .isTrue trivial
  | step :: steps, g =>
    have := decideDrains python onStarted steps (g.apply python onStarted step)
    inferInstanceAs (Decidable (_ ∧ _))

instance (python : Interpreter) (onStarted : Bool) (steps : List Step) (g : Guest) :
    Decidable (Drains python onStarted steps g) := decideDrains python onStarted steps g

/-- The report tells what the process wrote. -/
structure Covers (python : Interpreter) (g : Guest) (report : Report) : Prop where
  whole : report.outputTruncated = false → report.logDigest = python.sha256 g.written
  long : maxLogBytes < g.written.length → report.outputTruncated = true

variable {python : Interpreter} {onStarted : Bool} {g : Guest}

section Reading

variable {raw : Bytes} {started : Bool}

/-- What `on_started` leaves alone. -/
structure SameLog (g h : Guest) : Prop where
  written : h.written = g.written
  pipe : h.pipe = g.pipe
  returncode : h.returncode = g.returncode
  log : h.log = g.log
  count : h.count = g.count
  truncated : h.truncated = g.truncated
  interrupted : h.interrupted = g.interrupted
  result : h.result = g.result

theorem announce_same : SameLog g (g.announce onStarted raw started) := by
  simp only [announce]
  split
  · split <;> exact ⟨rfl, rfl, rfl, rfl, rfl, rfl, rfl, rfl⟩
  · exact ⟨rfl, rfl, rfl, rfl, rfl, rfl, rfl, rfl⟩

theorem announce_phase : (g.announce onStarted raw started).phase = .polling ∨
    (g.announce onStarted raw started).phase = .raised := by
  simp only [announce]
  split
  · split
    · cases started
      · exact .inr rfl
      · exact .inl rfl
    · exact .inl rfl
  · exact .inl rfl

theorem chunk_append (available : Nat) :
    g.chunk available ++ g.pipe.drop (g.chunk available).length = g.pipe := by
  simp only [chunk, List.length_take]
  conv_rhs => rw [← List.take_append_drop (min (min (min 65536 (maxLogBytes - g.count + 1))
    (max 1 available)) g.pipe.length) g.pipe]
  rw [List.take_eq_take_min]

end Reading

/-- What holds wherever the executor stands. -/
structure Accounts (python : Interpreter) (g : Guest) : Prop where
  flow : g.truncated = false → g.log ++ g.pipe = g.written
  counted : g.truncated = false → g.count = g.log.length
  bounded : g.truncated = false → g.count ≤ maxLogBytes
  live : g.phase.Active → g.truncated = false
  gone : g.phase = .left ∨ g.phase = .returned → g.truncated = false → g.interrupted = false →
    g.returncode.isSome
  reported : ∀ report, g.result = some report → g.phase = .returned ∧
    report.outputTruncated = g.truncated ∧ report.logDigest = python.sha256 g.log

theorem Accounts.start : Accounts python .start where
  flow _ := rfl
  counted _ := rfl
  bounded _ := Nat.zero_le _
  live _ := rfl
  gone phase := by obtain phase | phase := phase <;> nomatch phase
  reported _ h := nomatch h

/-- Nothing is reported before the loop is left. -/
theorem Accounts.silent (accounts : Accounts python g) (phase : g.phase ≠ .returned) :
    g.result = none := by
  cases found : g.result with
  | none => rfl
  | some report => exact absurd (accounts.reported report found).1 phase

theorem Accounts.receive (accounts : Accounts python g) (reading : g.phase = .reading)
    (available : Nat) (started : Bool) :
    Accounts python (g.receive onStarted (g.chunk available) started) := by
  have silent := accounts.silent (reading ▸ Phase.noConfusion)
  have divided := g.chunk_append available
  generalize g.chunk available = raw at divided
  simp only [Guest.receive]
  split
  · exact {
      flow := fun h => nomatch h
      counted := fun h => nomatch h
      bounded := fun h => nomatch h
      live := fun h => nomatch h
      gone := fun _ h => nomatch h
      reported := fun report found => nomatch silent.symm.trans found }
  · rename_i room
    generalize later : ({ g with
      pipe := g.pipe.drop raw.length, count := g.count + raw.length, log := g.log ++ raw } : Guest) = h
    have same := @announce_same onStarted h raw started
    have phase := @announce_phase onStarted h raw started
    generalize h.announce onStarted raw started = t at same phase
    subst later
    constructor
    · intro whole
      rw [same.log, same.pipe, same.written, List.append_assoc, divided]
      exact accounts.flow (same.truncated ▸ whole)
    · intro whole
      rw [same.log, same.count, List.length_append, accounts.counted (same.truncated ▸ whole)]
    · intro _
      rw [same.count]
      exact Nat.le_of_not_lt room
    · intro _
      rw [same.truncated]
      exact accounts.live (reading ▸ trivial)
    · intro ended
      obtain phase | phase := phase <;> rw [phase] at ended <;> obtain ended | ended := ended <;>
        nomatch ended
    · intro report found
      rw [same.result] at found
      exact nomatch silent.symm.trans found

theorem Accounts.apply (accounts : Accounts python g) (step : Step) :
    Accounts python (g.apply python onStarted step) := by
  cases step with
  | write raw =>
    simp only [Guest.apply]
    split
    · rename_i running
      exact {
        flow := fun whole => by
          show g.log ++ (g.pipe ++ raw) = g.written ++ raw
          rw [← List.append_assoc, accounts.flow whole]
        counted := accounts.counted
        bounded := accounts.bounded
        live := accounts.live
        gone := accounts.gone
        reported := accounts.reported }
    · exact accounts
  | close => exact { accounts with }
  | exit code =>
    simp only [Guest.apply]
    split
    · exact { accounts with gone := fun _ _ _ => rfl }
    · exact accounts
  | cancel => exact { accounts with }
  | expire => exact { accounts with }
  | check =>
    simp only [Guest.apply]
    split
    · rename_i top
      have silent := accounts.silent (top ▸ Phase.noConfusion)
      split
      · exact { accounts with
          live := fun h => nomatch h
          gone := fun _ _ h => nomatch h
          reported := fun _ found => nomatch silent.symm.trans found }
      · exact { accounts with
          live := fun _ => accounts.live (top ▸ trivial)
          gone := fun ended => by obtain ended | ended := ended <;> nomatch ended
          reported := fun _ found => nomatch silent.symm.trans found }
    · exact accounts
  | select =>
    simp only [Guest.apply]
    split
    · rename_i top
      have silent := accounts.silent (top ▸ Phase.noConfusion)
      exact { accounts with
        live := fun _ => accounts.live (top ▸ trivial)
        gone := fun ended => by
          dsimp only at ended
          split at ended <;> obtain ended | ended := ended <;> nomatch ended
        reported := fun _ found => nomatch silent.symm.trans found }
    · exact accounts
  | read available started =>
    simp only [Guest.apply]
    split
    · rename_i reading
      exact accounts.receive reading available started
    · exact accounts
  | poll =>
    simp only [Guest.apply]
    split
    · rename_i polling
      have silent := accounts.silent (polling ▸ Phase.noConfusion)
      exact { accounts with
        live := fun _ => accounts.live (polling ▸ trivial)
        gone := fun ended _ _ => by
          dsimp only at ended ⊢
          split at ended
          · assumption
          · obtain ended | ended := ended <;> nomatch ended
        reported := fun _ found => nomatch silent.symm.trans found }
    · exact accounts
  | finish done =>
    simp only [Guest.apply]
    split
    · rename_i left
      have silent := accounts.silent (left ▸ Phase.noConfusion)
      split
      · exact { accounts with
          live := fun h => nomatch h
          gone := fun _ => accounts.gone (.inl left)
          reported := fun report found => by
            cases found
            exact ⟨rfl, rfl, rfl⟩ }
      · exact { accounts with
          live := fun h => nomatch h
          gone := fun ended => by obtain ended | ended := ended <;> nomatch ended
          reported := fun _ found => nomatch silent.symm.trans found }
    · exact accounts

theorem Accounts.run (accounts : Accounts python g) (steps : List Step) :
    Accounts python (run python onStarted steps g) := by
  induction steps generalizing g with
  | nil => exact accounts
  | cons step steps ih => exact ih (accounts.apply step)

/-- What stays once the loop is left. -/
structure Stays (g h : Guest) : Prop where
  left : ¬ h.phase.Active
  truncated : h.truncated = g.truncated
  interrupted : h.interrupted = g.interrupted
  raised : g.phase = .raised → h.phase = .raised
  pipe : g.returncode.isSome → h.returncode.isSome ∧ h.pipe = g.pipe

theorem Stays.trans {f : Guest} (first : Stays f g) {h : Guest} (second : Stays g h) :
    Stays f h where
  left := second.left
  truncated := second.truncated.trans first.truncated
  interrupted := second.interrupted.trans first.interrupted
  raised raised := second.raised (first.raised raised)
  pipe exited :=
    have before := first.pipe exited
    have after := second.pipe before.1
    ⟨after.1, after.2.trans before.2⟩

theorem stays_apply (left : ¬ g.phase.Active) (step : Step) :
    Stays g (g.apply python onStarted step) := by
  have same : Stays g g := ⟨left, rfl, rfl, id, fun exited => ⟨exited, rfl⟩⟩
  have elsewhere (phase : Phase) (active : phase.Active) : g.phase ≠ phase :=
    fun here => left (here ▸ active)
  cases step with
  | write raw =>
    simp only [Guest.apply]
    split
    · rename_i running
      exact { same with pipe := fun exited => by simp [running.1] at exited }
    · exact same
  | close => exact { same with }
  | exit code =>
    simp only [Guest.apply]
    split
    · exact { same with pipe := fun _ => ⟨rfl, rfl⟩ }
    · exact same
  | cancel => exact { same with }
  | expire => exact { same with }
  | check =>
    rw [Guest.apply, if_neg (elsewhere .loop trivial)]
    exact same
  | select =>
    rw [Guest.apply, if_neg (elsewhere .selecting trivial)]
    exact same
  | read available started =>
    rw [Guest.apply, if_neg (elsewhere .reading trivial)]
    exact same
  | poll =>
    rw [Guest.apply, if_neg (elsewhere .polling trivial)]
    exact same
  | finish done =>
    simp only [Guest.apply]
    split
    · rename_i ended
      split
      · exact { same with
          left := id
          raised := fun raised => nomatch ended.symm.trans raised }
      · exact { same with
          left := id
          raised := fun _ => rfl }
    · exact same

theorem stays_run (left : ¬ g.phase.Active) (steps : List Step) :
    Stays g (run python onStarted steps g) ∧ Drains python onStarted steps g := by
  induction steps generalizing g with
  | nil => exact ⟨⟨left, rfl, rfl, id, fun exited => ⟨exited, rfl⟩⟩, trivial⟩
  | cons step steps ih =>
    have first := @stays_apply python onStarted g left step
    have rest := ih first.left
    exact ⟨first.trans rest.1, fun _ polling => absurd (polling ▸ trivial) left, rest.2⟩

/-- A step within the loop: it goes on, it is left early, or the exit is seen. -/
theorem apply_cases (active : g.phase.Active) (step : Step) :
    ((g.apply python onStarted step).phase.Active ∧
      ¬ (step = .poll ∧ g.phase = .polling ∧ g.returncode.isSome)) ∨
    (¬ (g.apply python onStarted step).phase.Active ∧
      ¬ (step = .poll ∧ g.phase = .polling ∧ g.returncode.isSome) ∧
      ((g.apply python onStarted step).truncated = true ∨
        (g.apply python onStarted step).interrupted = true ∨
        (g.apply python onStarted step).phase = .raised)) ∨
    (step = .poll ∧ g.phase = .polling ∧ g.returncode.isSome ∧
      g.apply python onStarted step = { g with phase := .left }) := by
  cases step with
  | write raw =>
    refine .inl ⟨?_, fun h => nomatch h.1⟩
    simp only [Guest.apply]
    split <;> exact active
  | close => exact .inl ⟨active, fun h => nomatch h.1⟩
  | exit code =>
    refine .inl ⟨?_, fun h => nomatch h.1⟩
    simp only [Guest.apply]
    split <;> exact active
  | cancel => exact .inl ⟨active, fun h => nomatch h.1⟩
  | expire => exact .inl ⟨active, fun h => nomatch h.1⟩
  | check =>
    simp only [Guest.apply]
    split
    · split
      · exact .inr (.inl ⟨id, fun h => (nomatch h.1), .inr (.inl rfl)⟩)
      · exact .inl ⟨trivial, fun h => nomatch h.1⟩
    · exact .inl ⟨active, fun h => nomatch h.1⟩
  | select =>
    refine .inl ⟨?_, fun h => nomatch h.1⟩
    simp only [Guest.apply]
    split
    · dsimp only
      split <;> trivial
    · exact active
  | read available started =>
    simp only [Guest.apply]
    split
    · simp only [receive]
      split
      · exact .inr (.inl ⟨id, fun h => (nomatch h.1), .inl rfl⟩)
      · generalize ({ g with
          pipe := g.pipe.drop (g.chunk available).length
          count := g.count + (g.chunk available).length
          log := g.log ++ g.chunk available } : Guest) = h
        obtain phase | phase := @announce_phase onStarted h (g.chunk available) started
        · exact .inl ⟨phase ▸ trivial, fun h => nomatch h.1⟩
        · exact .inr (.inl ⟨phase ▸ id, fun h => (nomatch h.1), .inr (.inr phase)⟩)
    · exact .inl ⟨active, fun h => nomatch h.1⟩
  | poll =>
    by_cases seen : g.phase = .polling ∧ g.returncode.isSome
    · refine .inr (.inr ⟨rfl, seen.1, seen.2, ?_⟩)
      rw [Guest.apply, if_pos seen.1, if_pos seen.2]
    · refine .inl ⟨?_, fun h => seen h.2⟩
      simp only [Guest.apply]
      split
      · rename_i polling
        rw [if_neg fun exited => seen ⟨polling, exited⟩]
        trivial
      · exact active
  | finish done =>
    refine .inl ⟨?_, fun h => nomatch h.1⟩
    have off : g.phase ≠ .left := fun left => by
      rw [left] at active
      exact active
    rw [Guest.apply, if_neg off]
    exact active

/-- What the condition says at the end of a run. -/
theorem Accounts.drains_iff (accounts : Accounts python g) (active : g.phase.Active)
    {steps : List Step} (ended : (Guest.run python onStarted steps g).phase = .returned)
    (whole : (Guest.run python onStarted steps g).interrupted = false) :
    Drains python onStarted steps g ↔ (Guest.run python onStarted steps g).truncated = true ∨
      (Guest.run python onStarted steps g).pipe = [] := by
  induction steps generalizing g with
  | nil =>
    rw [show g.phase = .returned from ended] at active
    exact active.elim
  | cons step steps ih =>
    have after : Accounts python (g.apply python onStarted step) := accounts.apply step
    obtain ⟨on, unseen⟩ | ⟨off, unseen, early⟩ | ⟨rfl, polling, exited, same⟩ :=
      @apply_cases python onStarted g active step
    · refine Iff.trans ?_ (ih after on ended whole)
      exact ⟨fun h => h.2, fun h => ⟨fun a b c => absurd ⟨a, b, c⟩ unseen, h⟩⟩
    · have rest := @stays_run python onStarted _ off steps
      refine iff_of_true ⟨fun a b c => absurd ⟨a, b, c⟩ unseen, rest.2⟩ (.inl ?_)
      obtain truncated | interrupted | raised := early
      · exact rest.1.truncated.trans truncated
      · exact absurd (rest.1.interrupted.trans interrupted) (whole ▸ Bool.false_ne_true)
      · exact nomatch ended.symm.trans (rest.1.raised raised)
    · have rest := @stays_run python onStarted (g.apply python onStarted .poll) (same ▸ id) steps
      have pipe : (Guest.run python onStarted (.poll :: steps) g).pipe = g.pipe :=
        (rest.1.pipe (same ▸ exited)).2.trans (by rw [same])
      have truncated : (Guest.run python onStarted (.poll :: steps) g).truncated = g.truncated :=
        rest.1.truncated.trans (by rw [same])
      constructor
      · intro drains
        exact .inr (pipe.trans (drains.1 rfl polling exited))
      · intro done
        refine ⟨fun _ _ _ => ?_, rest.2⟩
        obtain cut | empty := done
        · exact nomatch (truncated.trans (accounts.live active)).symm.trans cut
        · exact pipe.symm.trans empty

section Reporting

variable {report : Report}

theorem Accounts.covers (accounts : Accounts python g) (found : g.result = some report)
    (drained : g.truncated = true ∨ g.pipe = []) : Covers python g report := by
  obtain ⟨_, cut, digest⟩ := accounts.reported report found
  have full (whole : g.truncated = false) : g.log = g.written := by
    have flow := accounts.flow whole
    obtain truncated | empty := drained
    · exact nomatch whole.symm.trans truncated
    · rwa [empty, List.append_nil] at flow
  constructor
  · intro whole
    rw [digest, full (cut ▸ whole)]
  · intro long
    rw [cut]
    cases whole : g.truncated with
    | true => rfl
    | false =>
      have bounded := accounts.bounded whole
      rw [accounts.counted whole, full whole] at bounded
      exact absurd long (Nat.not_lt.mpr bounded)

theorem Accounts.drained (accounts : Accounts python g) (found : g.result = some report)
    (noCollision : ∀ a b, python.sha256 a = python.sha256 b → a = b)
    (covers : Covers python g report) : g.truncated = true ∨ g.pipe = [] := by
  obtain ⟨_, cut, digest⟩ := accounts.reported report found
  cases whole : g.truncated with
  | true => exact .inl rfl
  | false =>
    have same := noCollision _ _ (digest.symm.trans (covers.whole (cut.trans whole)))
    have flow := accounts.flow whole
    rw [← same, List.append_right_eq_self] at flow
    exact .inr flow

end Reporting

/-- If every poll that sees the exit finds the pipe empty, then a report covers the output, and the
same output has the same digest. Without that, no report covers it. -/
theorem log_covered (python : Interpreter) (onStarted : Bool) :
    (∀ steps report, (run python onStarted steps .start).result = some report →
      (run python onStarted steps .start).interrupted = false →
      Drains python onStarted steps .start →
      Covers python (run python onStarted steps .start) report) ∧
    (∀ steps others report other, (run python onStarted steps .start).result = some report →
      (run python onStarted others .start).result = some other →
      (run python onStarted steps .start).interrupted = false →
      (run python onStarted others .start).interrupted = false →
      Drains python onStarted steps .start → Drains python onStarted others .start →
      report.outputTruncated = false → other.outputTruncated = false →
      (run python onStarted steps .start).written = (run python onStarted others .start).written →
      report.logDigest = other.logDigest) ∧
    ((∀ a b, python.sha256 a = python.sha256 b → a = b) →
      ∀ steps report, (run python onStarted steps .start).result = some report →
      (run python onStarted steps .start).interrupted = false →
      Covers python (run python onStarted steps .start) report →
      Drains python onStarted steps .start) := by
  have accounts (steps : List Step) : Accounts python (run python onStarted steps .start) :=
    Accounts.start.run steps
  have exactly (steps : List Step) (report : Report)
      (found : (run python onStarted steps .start).result = some report)
      (whole : (run python onStarted steps .start).interrupted = false) :=
    Accounts.start.drains_iff trivial ((accounts steps).reported report found).1 whole
  have covered (steps : List Step) (report : Report)
      (found : (run python onStarted steps .start).result = some report)
      (whole : (run python onStarted steps .start).interrupted = false)
      (drains : Drains python onStarted steps .start) :=
    (accounts steps).covers found ((exactly steps report found whole).mp drains)
  refine ⟨covered, ?_, ?_⟩
  · intro steps others report other found found' whole whole' drains drains' full full' same
    rw [(covered steps report found whole drains).whole full,
      (covered others other found' whole' drains').whole full', same]
  · intro noCollision steps report found whole covers
    exact (exactly steps report found whole).mpr
      ((accounts steps).drained found noCollision covers)

/-- The digests of the empty text and of another. -/
def twoTexts : Interpreter where
  lower := id
  casefold := id
  nfc := id
  float := String.ofList
  depth := 8
  sha256 raw :=
    if raw = [] then "e3b0c44298fc1c149afbf4c8996fb92427ae41e4649b934ca495991b7852b855"
    else if raw = utf8 "hi" then "8f434346648f6b96df89dda901c5176b10a6d83961dd3c1ac88b59b2dc327aa4"
    else ""
  hmac _ _ := ""

/-- The process writes before it is polled, and what it wrote is read first. -/
def readFirst : List Step :=
  [.check, .write (utf8 "hi"), .select, .close, .exit 0, .read 2 true, .poll, .finish true]

/-- The process writes between the select and the poll. -/
def writtenLate : List Step :=
  [.check, .select, .write (utf8 "hi"), .close, .exit 0, .poll, .finish true]

theorem readFirst_covered : Covers Wire.oneFile (run Wire.oneFile false readFirst .start)
      ⟨0, false, "8f434346648f6b96df89dda901c5176b10a6d83961dd3c1ac88b59b2dc327aa4"⟩ ∧
    Drains Wire.oneFile false readFirst .start :=
  have covers := (log_covered Wire.oneFile false).1 readFirst _ (by decide +kernel)
    (by decide +kernel) (by decide +kernel)
  ⟨covers, (log_covered Wire.oneFile false).2.2 Wire.oneFile_noCollision readFirst _
    (by decide +kernel) (by decide +kernel) covers⟩

theorem writtenLate_lost : ¬ ∀ (python : Interpreter) (onStarted : Bool) (steps : List Step)
    (report : Report), (run python onStarted steps .start).result = some report →
    (run python onStarted steps .start).interrupted = false →
    Covers python (run python onStarted steps .start) report := by
  intro claim
  have covers := claim twoTexts false writtenLate
    ⟨0, false, "e3b0c44298fc1c149afbf4c8996fb92427ae41e4649b934ca495991b7852b855"⟩
    (by decide +kernel) (by decide +kernel)
  exact absurd (covers.whole rfl) (by decide +kernel)

end Guest

end Reproof.Execution.GuestLog

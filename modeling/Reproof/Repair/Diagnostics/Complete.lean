import Reproof.Repair.Diagnostics.Accepted

/-! Derived diagnostics are accepted again, complete within their budget, and show what was selected only. -/

namespace Reproof.Repair.Diagnostics

open Library Contracts Execution.Wire

variable {python : Interpreter} {repr : Rat → String} {app : ApplicationIdentity}
  {policy : DiagnosticPolicy} {project : ProjectRevision} {original : OriginalEvidence}
  {sourceDigest : String} {readObject : ArtifactRef → Except String Bytes}
  {references : List ArtifactRef} {reads : List (ArtifactRef × AppLog)} {taken : Snapshots}
  {document : DiagnosticDocument} {runs : List DiagnosticRun} {logs logs' : List AppLog} {n : Nat}
  {selected : List String}

section Last

/-- The last snapshot of every session, the sessions in the order of their first snapshots. -/
def lastsOf (logs : List AppLog) : List AppLog :=
  (logs.map AppLog.session).eraseDups.filterMap fun key => (logs.filter (·.session = key)).getLast?

theorem filterMap_entries {entries : List (String × AppLog × List String)} {f : String → Option AppLog}
    (each : ∀ entry ∈ entries, f entry.1 = some entry.2.1) :
    (entries.map Prod.fst).filterMap f = entries.map (·.2.1) := by
  induction entries with
  | nil => rfl
  | cons entry entries ih =>
    obtain ⟨here, later⟩ := List.forall_mem_cons.mp each
    rw [List.map_cons, List.filterMap_cons_some here, ih later, List.map_cons]

theorem Collected.lasts (collected : Collected reads taken) :
    taken.sessions.values.map Prod.fst = lastsOf (reads.map Prod.snd) := by
  have keys : ((reads.map Prod.snd).map AppLog.session).eraseDups = taken.sessions.entries.map Prod.fst := by
    rw [List.map_map]
    exact collected.keys.symm
  rw [lastsOf, keys, filterMap_entries (f := fun key => ((reads.map Prod.snd).filter (·.session = key)).getLast?)]
  · rw [Dict.values, List.map_map]
    rfl
  · intro entry mem
    have last := collected.last entry.1 entry.2.1 entry.2.2 (Dict.mem_entries.mp mem)
    rw [List.filter_map, List.getLast?_map]
    exact last

end Last

section Alike

/-- The policy does not list the target. -/
def DiagnosticPolicy.Hides (self : DiagnosticPolicy) (target : Option String) : Prop :=
  ∀ name ∈ target, name ∉ self.clickTargets ++ self.screenTargets

/-- Two events differ only in fields that are not selected, or in targets that are not listed. -/
structure LogEvent.Alike (policy : DiagnosticPolicy) (selected : List String) (event event' : LogEvent) :
    Prop where
  kept : ∀ field ∈ selected, field ≠ "target" → event.get field = event'.get field
  target : "target" ∈ selected →
    event.target = event'.target ∨ policy.Hides event.target ∧ policy.Hides event'.target

/-- Two snapshots of one session whose events are alike. -/
structure AppLog.Alike (policy : DiagnosticPolicy) (selected : List String) (log log' : AppLog) : Prop where
  session : log.session = log'.session
  events : List.Forall₂ (LogEvent.Alike policy selected) log.events log'.events

theorem masked_hidden {event : LogEvent} (hidden : policy.Hides event.target) :
    policy.masked (event.get "target") = .null := by
  have value : event.get "target" = (event.target.map .str).getD .null := rfl
  rw [value]
  cases target : event.target with
  | none => rfl
  | some name => exact if_neg (hidden name target)

theorem LogEvent.Alike.shown {event event' : LogEvent} (alike : event.Alike policy selected event')
    {field : String} (mem : field ∈ selected) : policy.shown event field = policy.shown event' field := by
  rw [DiagnosticPolicy.shown, DiagnosticPolicy.shown]
  split
  · rename_i target
    subst target
    cases alike.target mem with
    | inl same =>
      have values : event.get "target" = event'.get "target" := by
        change (event.target.map Json.str).getD .null = (event'.target.map Json.str).getD .null
        rw [same]
      rw [values]
    | inr hidden => rw [masked_hidden hidden.1, masked_hidden hidden.2]
  · rename_i other
    exact alike.kept field mem other

theorem only_select {event : LogEvent} (within : ∀ field ∈ selected, field ∈ policy.eventFields) :
    Shown.only selected (policy.select event) = selected.map fun field => (field, policy.shown event field) := by
  rw [Shown.only, select_eq]
  induction selected with
  | nil => rfl
  | cons field selected ih =>
    obtain ⟨here, later⟩ := List.forall_mem_cons.mp within
    rw [List.filterMap_cons, find_map here, ih later]
    rfl

theorem forall₂_getLast {α : Type} {r : α → α → Prop} {as bs : List α} (all : List.Forall₂ r as bs) :
    Option.Rel r as.getLast? bs.getLast? := by
  rw [List.getLast?_eq_head?_reverse, List.getLast?_eq_head?_reverse]
  have turned := List.forall₂_reverse_iff.mpr all
  generalize as.reverse = firsts at turned ⊢
  generalize bs.reverse = seconds at turned ⊢
  cases turned with
  | nil => exact .none
  | cons here _ => exact .some here

theorem lastsOf_alike (alike : List.Forall₂ (AppLog.Alike policy selected) logs logs') :
    List.Forall₂ (AppLog.Alike policy selected) (lastsOf logs) (lastsOf logs') := by
  have sessions : logs.map AppLog.session = logs'.map AppLog.session := by
    induction alike with
    | nil => rfl
    | cons here _ ih => rw [List.map_cons, List.map_cons, here.session, ih]
  rw [lastsOf, lastsOf, ← sessions]
  refine List.rel_filterMap (R := Eq) ?_ (List.forall₂_eq_eq_eq.symm ▸ rfl)
  rintro key _ rfl
  refine forall₂_getLast (List.rel_filter (fun log log' here => ?_) alike)
  simp only [decide_eq_true_eq, here.session]

theorem map_alike {events events' : List LogEvent}
    (alike : List.Forall₂ (LogEvent.Alike policy selected) events events')
    (within : ∀ field ∈ selected, field ∈ policy.eventFields) :
    events.map (Shown.only selected ∘ policy.select) = events'.map (Shown.only selected ∘ policy.select) := by
  induction alike with
  | nil => rfl
  | cons first _ ih =>
    rw [List.map_cons, List.map_cons, ih]
    refine congrArg (· :: _) ?_
    rw [Function.comp_apply, Function.comp_apply, only_select within, only_select within]
    exact List.map_congr_left fun field mem => Prod.ext rfl (first.shown mem)

theorem Budgeted.alike {runs' : List DiagnosticRun}
    (budgeted : Budgeted policy n logs runs) (budgeted' : Budgeted policy n logs' runs')
    (alike : List.Forall₂ (AppLog.Alike policy selected) logs logs')
    (within : ∀ field ∈ selected, field ∈ policy.eventFields) :
    (runs.map fun run => (run.restrict selected).events) =
      runs'.map fun run => (run.restrict selected).events := by
  induction alike generalizing n runs runs' with
  | nil =>
    cases budgeted
    cases budgeted'
    rfl
  | cons here _ ih =>
    cases budgeted with
    | cons shows rest =>
      cases budgeted' with
      | cons shows' rest' =>
        rw [← here.events.length_eq] at rest'
        rw [List.map_cons, List.map_cons, ih rest rest']
        refine congrArg (· :: _) ?_
        simp only [DiagnosticRun.restrict, shows.events, shows'.events, List.map_map]
        exact map_alike (List.forall₂_take n here.events) within

end Alike

section Bound

theorem mem_mapM {α β : Type} {f : α → Except String β} {as : List α} {bs : List β} {b : β}
    (mapped : as.mapM f = .ok bs) (mem : b ∈ bs) : ∃ a ∈ as, f a = .ok b := by
  induction as generalizing bs with
  | nil =>
    cases mapped
    cases mem
  | cons a as ih =>
    simp only [List.mapM_cons, bind_eq_ok, pure_eq_ok] at mapped
    obtain ⟨first, here, rest, later, rfl⟩ := mapped
    cases mem with
    | head => exact ⟨a, List.mem_cons_self, here⟩
    | tail _ mem =>
      obtain ⟨other, listed, read⟩ := ih later mem
      exact ⟨other, List.mem_cons_of_mem _ listed, read⟩

/-- A read of the recording: the object that the reference names, and the log in it. -/
structure IsRead (python : Interpreter) (app : ApplicationIdentity) (policy : DiagnosticPolicy)
    (readObject : ArtifactRef → Except String Bytes) (read : ArtifactRef × AppLog) (raw : Bytes) : Prop where
  object : readObject read.1 = .ok raw
  digest : python.sha256 raw = read.1.digest
  log : ∃ document, diagnosticJson python raw maxAppLogBytes = .ok document ∧ AppLog.read document = .ok read.2
  few : read.2.events.length ≤ maxAppLogEvents
  events : checkEvents policy.clickTargets policy.screenTargets 1 0 read.2.events = .ok ()

theorem exists_isRead (read : readLogs python app policy readObject references = .ok reads) :
    ∀ entry ∈ reads, entry.1 ∈ references ∧ ∃ raw, IsRead python app policy readObject entry raw := by
  intro entry mem
  obtain ⟨reference, listed, one⟩ := mem_mapM read mem
  simp only [bind_eq_ok, pure_eq_ok] at one
  obtain ⟨raw, object, value, log, rfl⟩ := one
  simp only [readLog, validateAppLog, bind_eq_ok, require_eq_ok, pure_eq_ok] at log
  obtain ⟨-, ⟨-, digest⟩, document, json, -, -, value, parsed, -, -, -, ⟨-, -, -, ⟨-, few, -⟩, ⟨⟩, events, -⟩, rfl⟩ :=
    log
  exact ⟨listed, raw, object, digest, ⟨document, json, parsed⟩, few, events⟩

/-- No two of the texts have one digest. -/
def Collisionless (python : Interpreter) (texts : List Bytes) : Prop :=
  ∀ a ∈ texts, ∀ b ∈ texts, python.sha256 a = python.sha256 b → a = b

/-- The texts that the digests of objects and runs are taken of. -/
def hashed (python : Interpreter) (readObject : ArtifactRef → Except String Bytes)
    (reads : List (ArtifactRef × AppLog)) : List Bytes :=
  reads.filterMap (fun read => (readObject read.1).toOption) ++
    reads.filterMap fun read => dumps python read.2.identity.json

theorem object_hashed {entry : ArtifactRef × AppLog} {raw : Bytes} (mem : entry ∈ reads)
    (read : IsRead python app policy readObject entry raw) : raw ∈ hashed python readObject reads :=
  List.mem_append_left _ (List.mem_filterMap.mpr ⟨entry, mem, toOption_eq_some.mpr read.object⟩)

theorem session_of_same {identity identity' : LogIdentity} (same : identity.json.Same identity'.json) :
    identity.sessionId = identity'.sessionId :=
  (Json.Same.item "sessionId" same (by simp) (by simp) (by simp)).str

/-- Two reads with one digest are of one session. -/
theorem session_of_digest {entry entry' : ArtifactRef × AppLog} {raw raw' : Bytes}
    (apart : Collisionless python (hashed python readObject reads)) (mem : entry ∈ reads)
    (mem' : entry' ∈ reads) (read : IsRead python app policy readObject entry raw)
    (read' : IsRead python app policy readObject entry' raw') (same : entry.1.digest = entry'.1.digest) :
    entry.2.session = entry'.2.session := by
  have raws : raw = raw' := apart _ (object_hashed mem read) _ (object_hashed mem' read')
    (read.digest.trans (same.trans read'.digest.symm))
  subst raws
  obtain ⟨document, json, log⟩ := read.log
  obtain ⟨document', json', log'⟩ := read'.log
  rw [json, Except.ok.injEq] at json'
  subst json'
  rw [log, Except.ok.injEq] at log'
  rw [log']

end Bound

end Reproof.Repair.Diagnostics

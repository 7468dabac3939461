import Reproof.Repair.Diagnostics.Shown

/-! The second check accepts a document whose runs are sound, and restricts it to the fields chosen. -/

namespace Reproof.Repair.Diagnostics

open Library Contracts Execution.Wire

/-- The fields of an event that one recipient gets. -/
def Shown.only (selected : List String) (event : Shown) : Shown :=
  selected.filterMap fun key => event.find? fun pair => pair.1 = key

def DiagnosticRun.restrict (selected : List String) (self : DiagnosticRun) : DiagnosticRun :=
  { self with events := self.events.map (Shown.only selected) }

def DiagnosticDocument.restrict (selected : List String) (self : DiagnosticDocument) : DiagnosticDocument :=
  { self with eventFields := selected, runs := self.runs.map (DiagnosticRun.restrict selected) }

variable {python : Interpreter} {policy : DiagnosticPolicy} {run : DiagnosticRun}
  {runs : List DiagnosticRun} {document : DiagnosticDocument} {event : Shown}
  {available sources selected : List String} {seen : Seen}

section Reading

theorem mapM_map {α β γ : Type} {f : α → β} {g : β → Except String γ} {h : α → γ} {as : List α}
    (each : ∀ a ∈ as, g (f a) = .ok (h a)) : (as.map f).mapM g = .ok (as.map h) := by
  induction as with
  | nil => rfl
  | cons a as ih =>
    obtain ⟨here, later⟩ := List.forall_mem_cons.mp each
    rw [List.map_cons, List.mapM_cons, here, ih later]
    rfl

theorem strsOf_list (texts : List String) : strsOf (.list (texts.map .str)) = .ok texts := by
  have read : (texts.map Json.str).mapM strOf = .ok (texts.map id) := mapM_map fun _ _ => rfl
  rw [List.map_id] at read
  exact read

def DiagnosticRun.pairs (self : DiagnosticRun) : List (String × Json) :=
  [("runDigest", .str self.runDigest), ("sourceObjects", .list (self.sourceObjects.map .str)),
    ("clock", .str "app-elapsed-unmapped"), ("truncated", .bool self.truncated),
    ("lostEvents", .bool self.lostEvents), ("totalEvents", .int self.totalEvents),
    ("omittedEvents", .int self.omittedEvents), ("events", .list (self.events.map .dict))]

theorem exactly_run : exactly run.json runKeys = .ok run.pairs := by
  change exactly (.dict run.pairs) runKeys = _
  simp only [exactly, bind_eq_ok, require_eq_ok, pure_eq_ok]
  exact ⟨(), List.Perm.refl runKeys, trivial⟩

end Reading

/-- What the second check asks of a run. -/
structure DiagnosticRun.Sound (available sources : List String) (run : DiagnosticRun) : Prop where
  runDigest : isDigest run.runDigest
  objects : run.sourceObjects ≠ [] ∧ (∀ object ∈ run.sourceObjects, object ∈ sources) ∧
    run.sourceObjects.Nodup
  total : 0 ≤ run.totalEvents ∧ run.totalEvents ≤ maxAppLogEvents
  omitted : run.omittedEvents = run.totalEvents - run.events.length ∧
    0 ≤ run.totalEvents - (run.events.length : Int)
  events : checkShownAll available 1 0 (run.events.map .dict) = .ok ()

theorem checkRun_sound (sound : run.Sound available sources) (new : run.runDigest ∉ seen.runIds)
    (apart : ∀ object ∈ run.sourceObjects, object ∉ seen.used) :
    checkRun available sources seen run.json =
      .ok ⟨seen.used ++ run.sourceObjects, seen.runIds ++ [run.runDigest], seen.count + run.events.length⟩ := by
  have runDigest : item run.pairs "runDigest" = .ok (.str run.runDigest) := rfl
  have clock : item run.pairs "clock" = .ok (.str "app-elapsed-unmapped") := rfl
  have truncated : item run.pairs "truncated" = .ok (.bool run.truncated) := rfl
  have lost : item run.pairs "lostEvents" = .ok (.bool run.lostEvents) := rfl
  have objects : item run.pairs "sourceObjects" = .ok (.list (run.sourceObjects.map .str)) := rfl
  have events : item run.pairs "events" = .ok (.list (run.events.map .dict)) := rfl
  have total : item run.pairs "totalEvents" = .ok (.int run.totalEvents) := rfl
  have omitted : item run.pairs "omittedEvents" = .ok (.int run.omittedEvents) := rfl
  simp only [checkRun, exactly_run, runDigest, clock, truncated, lost, objects, events, total, omitted,
    validateDigest, strOf, boolOf, listOf, intOf, strsOf_list, bind_eq_ok, require_eq_ok, pure_eq_ok,
    Except.ok.injEq, exists_eq_left', exists_const, List.length_map, sound.events]
  exact ⟨_, ⟨sound.runDigest, rfl⟩, new, trivial, ⟨sound.objects.1, sound.objects.2.1, sound.objects.2.2, apart⟩,
    sound.total, sound.omitted, trivial, rfl⟩

/-- The runs are accepted one after the other. -/
theorem foldlM_checkRun (seen : Seen) (sound : ∀ run ∈ runs, run.Sound available sources)
    (ids : (runs.map (·.runDigest)).Nodup) (new : ∀ run ∈ runs, run.runDigest ∉ seen.runIds)
    (apart : runs.Pairwise fun run run' => ∀ object ∈ run'.sourceObjects, object ∉ run.sourceObjects)
    (unused : ∀ run ∈ runs, ∀ object ∈ run.sourceObjects, object ∉ seen.used) :
    ∃ last, (runs.map DiagnosticRun.json).foldlM (checkRun available sources) seen = .ok last ∧
      last.used = seen.used ++ runs.flatMap (·.sourceObjects) ∧
      last.count = seen.count + (runs.map (·.events.length)).sum := by
  induction runs generalizing seen with
  | nil => exact ⟨seen, rfl, (List.append_nil _).symm, rfl⟩
  | cons run runs ih =>
    obtain ⟨own, others⟩ := List.forall_mem_cons.mp sound
    obtain ⟨fresh, later⟩ := List.forall_mem_cons.mp new
    obtain ⟨free, rest⟩ := List.forall_mem_cons.mp unused
    rw [List.map_cons, List.nodup_cons] at ids
    obtain ⟨before, apart⟩ := List.pairwise_cons.mp apart
    have different : ∀ other ∈ runs, other.runDigest ∉ seen.runIds ++ [run.runDigest] := by
      intro other mem
      rw [List.mem_append, List.mem_singleton, not_or]
      exact ⟨later other mem, fun same => ids.1 (same ▸ List.mem_map_of_mem mem)⟩
    have left : ∀ other ∈ runs, ∀ object ∈ other.sourceObjects, object ∉ seen.used ++ run.sourceObjects := by
      intro other mem object inside
      rw [List.mem_append, not_or]
      exact ⟨rest other mem object inside, before other mem object inside⟩
    obtain ⟨last, folded, used, count⟩ := ih ⟨seen.used ++ run.sourceObjects,
      seen.runIds ++ [run.runDigest], seen.count + run.events.length⟩ others ids.2 different apart left
    refine ⟨last, ?_, ?_, ?_⟩
    · rw [List.map_cons, List.foldlM_cons, checkRun_sound own fresh free]
      exact folded
    · rw [used, List.flatMap_cons, List.append_assoc]
    · rw [count, List.map_cons, List.sum_cons, Nat.add_assoc]

section Restricting

/-- The event has every field that is chosen. -/
def Shown.Has (selected : List String) (event : Shown) : Prop :=
  ∀ field ∈ selected, ∃ value, event.find? (fun pair => pair.1 = field) = some (field, value)

theorem restrictEvent_only (has : event.Has selected) :
    restrictEvent selected (.dict event) = .ok (.dict (event.only selected)) := by
  have kept : (selected.mapM fun key => do pure (key, ← item event key)) =
      (Except.ok (event.only selected) : Except String Shown) := by
    induction selected with
    | nil => rfl
    | cons field selected ih =>
      obtain ⟨⟨value, found⟩, later⟩ := List.forall_mem_cons.mp has
      have here : item event field = .ok value := by
        rw [item, found]
        rfl
      have first : Shown.only (field :: selected) event = (field, value) :: event.only selected := by
        rw [Shown.only, Shown.only, List.filterMap_cons, found]
      rw [List.mapM_cons, ih later, here, first]
      rfl
  simp only [restrictEvent, dictOf, bind_eq_ok, pure_eq_ok, Except.ok.injEq, exists_eq_left', kept]

theorem restrictRun_restrict (has : ∀ event ∈ run.events, event.Has selected) :
    restrictRun selected run.json = .ok (run.restrict selected).json := by
  have events : item run.pairs "events" = .ok (.list (run.events.map .dict)) := rfl
  have restricted := mapM_map (f := Json.dict) (g := restrictEvent selected)
    (h := fun event => .dict (Shown.only selected event)) fun event mem => restrictEvent_only (has event mem)
  change restrictRun selected (.dict run.pairs) = _
  simp only [restrictRun, dictOf, bind_eq_ok, pure_eq_ok, Except.ok.injEq, exists_eq_left', events, listOf,
    restricted, DiagnosticRun.json, DiagnosticRun.restrict, List.map_map]
  rfl

end Restricting

def DiagnosticDocument.pairs (self : DiagnosticDocument) : List (String × Json) :=
  [("schemaVersion", .int 1), ("purpose", .str "diagnostic-only"),
    ("projectDigest", .str self.projectDigest), ("recordingDigest", .str self.recordingDigest),
    ("buildId", .str self.buildId), ("sourceDigest", .str self.sourceDigest),
    ("artifactDigest", .str self.artifactDigest), ("policyDigest", .str self.policyDigest),
    ("sourceObjects", .list (self.sourceObjects.map .str)),
    ("eventFields", .list (self.eventFields.map .str)), ("runs", .list (self.runs.map DiagnosticRun.json))]

/-- What the second check asks of a whole document. -/
structure DiagnosticDocument.Sound (python : Interpreter) (project : ProjectRevision)
    (document : DiagnosticDocument) : Prop where
  digests : isDigest document.projectDigest ∧ isDigest document.recordingDigest ∧
    isDigest document.sourceDigest ∧ isDigest document.artifactDigest ∧ isDigest document.policyDigest
  bound : digest python project.json = .ok document.projectDigest
  build : ∃ build ∈ project.builds, build.id = document.buildId ∧
    build.sourceDigest = some document.sourceDigest ∧ build.artifactDigest = document.artifactDigest
  fields : IsSelection document.eventFields
  sources : (1 ≤ document.sourceObjects.length ∧ document.sourceObjects.length ≤ maxAppLogSnapshots) ∧
    (∀ source ∈ document.sourceObjects, isDigest source) ∧ document.sourceObjects.Nodup
  few : 1 ≤ document.runs.length ∧ document.runs.length ≤ maxRuns
  runs : ∀ run ∈ document.runs, run.Sound document.eventFields document.sourceObjects
  ids : (document.runs.map (·.runDigest)).Nodup
  apart : document.runs.Pairwise fun run run' => ∀ object ∈ run'.sourceObjects, object ∉ run.sourceObjects
  used : ∀ source ∈ document.sourceObjects, ∃ run ∈ document.runs, source ∈ run.sourceObjects
  limit : (document.runs.map (·.events.length)).sum ≤ maxAppLogEvents
  size : ∃ raw, canonical python document.json = some raw ∧ raw.length ≤ maxDiagnosticBytes

theorem projectDiagnostics_sound {project : ProjectRevision} {fields : Option (List String)}
    (sound : document.Sound python project) (chosen : IsSelection (fields.getD document.eventFields))
    (within : ∀ field ∈ fields.getD document.eventFields, field ∈ document.eventFields)
    (has : ∀ run ∈ document.runs, ∀ event ∈ run.events, event.Has (fields.getD document.eventFields)) :
    projectDiagnostics python document.json project document.sourceDigest document.recordingDigest fields =
      .ok (document.restrict (fields.getD document.eventFields)).json := by
  have whole : exactly document.json documentKeys = .ok document.pairs := by
    change exactly (.dict document.pairs) documentKeys = _
    simp only [exactly, bind_eq_ok, require_eq_ok, pure_eq_ok]
    exact ⟨(), List.Perm.refl documentKeys, trivial⟩
  have version : item document.pairs "schemaVersion" = .ok (.int 1) := rfl
  have purpose : item document.pairs "purpose" = .ok (.str "diagnostic-only") := rfl
  have projectDigest : item document.pairs "projectDigest" = .ok (.str document.projectDigest) := rfl
  have recording : item document.pairs "recordingDigest" = .ok (.str document.recordingDigest) := rfl
  have build : item document.pairs "buildId" = .ok (.str document.buildId) := rfl
  have source : item document.pairs "sourceDigest" = .ok (.str document.sourceDigest) := rfl
  have artifact : item document.pairs "artifactDigest" = .ok (.str document.artifactDigest) := rfl
  have policy : item document.pairs "policyDigest" = .ok (.str document.policyDigest) := rfl
  have objects : item document.pairs "sourceObjects" = .ok (.list (document.sourceObjects.map .str)) := rfl
  have eventFields : item document.pairs "eventFields" = .ok (.list (document.eventFields.map .str)) := rfl
  have runs : item document.pairs "runs" = .ok (.list (document.runs.map DiagnosticRun.json)) := rfl
  obtain ⟨last, folded, used, count⟩ := foldlM_checkRun ⟨[], [], 0⟩ sound.runs sound.ids
    (fun _ _ => List.not_mem_nil) sound.apart (fun _ _ _ _ => List.not_mem_nil)
  have restricted := mapM_map (f := DiagnosticRun.json) (g := restrictRun (fields.getD document.eventFields))
    (h := fun run => (run.restrict (fields.getD document.eventFields)).json)
    fun run mem => restrictRun_restrict (has run mem)
  obtain ⟨raw, written, small⟩ := sound.size
  obtain ⟨ownProject, ownRecording, ownSource, ownArtifact, ownPolicy⟩ := sound.digests
  rw [projectDiagnostics, mapError_eq_ok]
  simp only [projected, whole, version, purpose, projectDigest, recording, build, source, artifact, policy,
    objects, eventFields, runs, intOf, strOf, listOf, validateDigest, strsOf_list, bind_eq_ok, require_eq_ok,
    pure_eq_ok, Except.ok.injEq, exists_eq_left', exists_const, sound.bound, folded, written, restricted,
    orFail, List.length_map, true_and]
  obtain ⟨own, listed, name, source, artifact⟩ := sound.build
  refine ⟨_, ⟨ownProject, rfl⟩, _, ⟨ownRecording, rfl⟩, _, ⟨ownSource, rfl⟩, _, ⟨ownArtifact, rfl⟩, _,
    ⟨ownPolicy, rfl⟩, (), require_eq_ok.mpr ⟨rfl, rfl, rfl, own, listed, congrArg some name.symm, source, artifact⟩,
    sound.fields, chosen, within, sound.sources.1, sound.sources.2.1, sound.sources.2.2, sound.few,
    ⟨fun source mem => ?_, fun object mem => ?_, ?_⟩, small, ?_⟩
  · rw [used, List.nil_append, List.mem_flatMap]
    exact sound.used source mem
  · rw [used, List.nil_append, List.mem_flatMap] at mem
    obtain ⟨run, inside, mem⟩ := mem
    exact (sound.runs run inside).objects.2.1 object mem
  · rw [count, Nat.zero_add]
    exact sound.limit
  · rw [DiagnosticDocument.restrict, DiagnosticDocument.json, List.map_map]
    rfl

end Reproof.Repair.Diagnostics

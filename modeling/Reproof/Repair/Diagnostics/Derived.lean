import Reproof.Repair.Diagnostics.Complete

/-! A document that is derived passes the second check, whatever fields are chosen of it. -/

namespace Reproof.Repair.Diagnostics

open Library Contracts Execution.Wire

variable {python : Interpreter} {repr : Rat → String} {app : ApplicationIdentity}
  {policy : DiagnosticPolicy} {project : ProjectRevision} {original : OriginalEvidence}
  {sourceDigest : String} {readObject : ArtifactRef → Except String Bytes}
  {references : List ArtifactRef} {reads : List (ArtifactRef × AppLog)} {taken : Snapshots}
  {document : DiagnosticDocument} {runs : List DiagnosticRun} {sessions : List (AppLog × List String)}
  {remaining : Nat}

/-- What a run names its session and the objects of the session by. -/
structure DiagnosticRun.Names (python : Interpreter) (session : AppLog × List String)
    (run : DiagnosticRun) : Prop where
  runDigest : digest python session.1.identity.json = .ok run.runDigest
  objects : run.sourceObjects = session.2

theorem runsOf_named (derived : runsOf python policy remaining sessions = .ok runs) :
    List.Forall₂ (DiagnosticRun.Names python) sessions runs := by
  induction sessions generalizing remaining runs with
  | nil =>
    cases derived
    exact .nil
  | cons session sessions ih =>
    obtain ⟨value, digests⟩ := session
    simp only [runsOf, bind_eq_ok, pure_eq_ok] at derived
    obtain ⟨runDigest, named, more, rest, rfl⟩ := derived
    exact .cons ⟨named, rfl⟩ (ih rest)

/-- The logs that a recording holds of its application, in the order of the recording. -/
def recordedLogs (python : Interpreter) (project : ProjectRevision) (original : OriginalEvidence)
    (policy : DiagnosticPolicy) (readObject : ArtifactRef → Except String Bytes) :
    Except String (List (ArtifactRef × AppLog)) := do
  let app ← orFail (project.applications.find? fun item => item.id = original.applicationId)
    "diagnostics_invalid"
  let references ← diagnosticReferences original
  readLogs python app policy readObject references

/-- What a derivation that succeeds has read, collected and checked. -/
structure Derivation (python : Interpreter) (repr : Rat → String) (project : ProjectRevision)
    (original : OriginalEvidence) (sourceDigest : String) (policy : DiagnosticPolicy)
    (readObject : ArtifactRef → Except String Bytes) (document : DiagnosticDocument)
    (reads : List (ArtifactRef × AppLog)) (taken : Snapshots) : Prop where
  valid : validateProjectRevision python project = .ok ()
  allowed : validateDiagnosticPolicy python policy project = .ok ()
  read : recordedLogs python project original policy readObject = .ok reads
  collected : Collected reads taken
  runs : runsOf python policy policy.maxEvents.toNat taken.sessions.values = .ok document.runs
  projectDigest : digest python project.json = .ok document.projectDigest
  recordingDigest : digest python (original.json repr) = .ok document.recordingDigest
  policyDigest : digest python policy.json = .ok document.policyDigest
  build : ∃ build ∈ project.builds, build.id = document.buildId ∧ build.sourceDigest = some sourceDigest ∧
    build.artifactDigest = document.artifactDigest
  source : document.sourceDigest = sourceDigest
  sources : document.sourceObjects = taken.sources
  eventFields : document.eventFields = policy.eventFields
  size : ∃ raw, canonical python document.json = some raw ∧ raw.length ≤ maxDiagnosticBytes

theorem exists_derivation (derived : deriveAppLogDiagnostics python repr project original sourceDigest policy
    readObject = .ok document) :
    ∃ reads taken, Derivation python repr project original sourceDigest policy readObject document reads taken := by
  simp only [deriveAppLogDiagnostics, mapError_eq_ok, derive, bind_eq_ok, require_eq_ok, pure_eq_ok,
    orFail_eq_ok] at derived
  obtain ⟨⟨⟩, valid, -, -, ⟨⟩, allowed, build, found, -, ⟨-, -, -, -, source⟩, app, known, references, selected, taken,
    snapshots, runs, derived, projectDigest, ofProject, recordingDigest, ofRecording, policyDigest, ofPolicy,
    raw, written, -, small, rfl⟩ := derived
  obtain ⟨reads, read, collected⟩ := collectSnapshots_collected snapshots
  have recorded : recordedLogs python project original policy readObject = .ok reads := by
    simp only [recordedLogs, bind_eq_ok, orFail_eq_ok]
    exact ⟨app, known, references, selected, read⟩
  exact ⟨reads, taken, valid, allowed, recorded, collected, derived, ofProject, ofRecording,
    ofPolicy, ⟨build, List.mem_of_find?_eq_some found, rfl, source, rfl⟩, rfl, rfl, rfl, raw, written, small⟩

section Lists

variable {α β : Type} {r : α → β → Prop} {as : List α} {bs : List β} {a : α} {b : β}

theorem exists_left (all : List.Forall₂ r as bs) (mem : b ∈ bs) : ∃ a ∈ as, r a b := by
  induction all with
  | nil => cases mem
  | cons here _ ih =>
    cases mem with
    | head => exact ⟨_, List.mem_cons_self, here⟩
    | tail _ mem =>
      obtain ⟨a, later, there⟩ := ih mem
      exact ⟨a, List.mem_cons_of_mem _ later, there⟩

theorem exists_right (all : List.Forall₂ r as bs) (mem : a ∈ as) : ∃ b ∈ bs, r a b :=
  exists_left all.flip mem

/-- Members that are related to members that stand apart, stand apart. -/
theorem pairwise_right {p : α → α → Prop} {q : β → β → Prop} (all : List.Forall₂ r as bs)
    (apart : as.Pairwise p)
    (carries : ∀ a ∈ as, ∀ a' ∈ as, ∀ b b', r a b → r a' b' → p a a' → q b b') : bs.Pairwise q := by
  induction all with
  | nil => exact .nil
  | cons here rest ih =>
    obtain ⟨first, later⟩ := List.pairwise_cons.mp apart
    refine .cons (fun b' mem => ?_) (ih later fun a mem a' mem' =>
      carries a (List.mem_cons_of_mem _ mem) a' (List.mem_cons_of_mem _ mem'))
    obtain ⟨a', mem', there⟩ := exists_left rest mem
    exact carries _ List.mem_cons_self a' (List.mem_cons_of_mem _ mem') _ b' here there (first a' mem')

theorem length_mapM {f : α → Except String β} (mapped : as.mapM f = .ok bs) : bs.length = as.length := by
  induction as generalizing bs with
  | nil =>
    cases mapped
    rfl
  | cons a as ih =>
    simp only [List.mapM_cons, bind_eq_ok, pure_eq_ok] at mapped
    obtain ⟨_, -, rest, later, rfl⟩ := mapped
    rw [List.length_cons, List.length_cons, ih later]

end Lists

theorem digest_hashed (hashes : ∀ raw, isDigest (python.sha256 raw)) {value : Json} {text : String}
    (named : digest python value = .ok text) : isDigest text := by
  simp only [digest, bind_eq_ok, pure_eq_ok] at named
  obtain ⟨raw, -, rfl⟩ := named
  exact hashes raw

/-- What an allowed policy selects. -/
theorem validateDiagnosticPolicy_selects (allowed : validateDiagnosticPolicy python policy project = .ok ()) :
    (AreTargets policy.clickTargets ∧ AreTargets policy.screenTargets) ∧ IsSelection policy.eventFields ∧
      1 ≤ policy.maxEvents ∧ policy.maxEvents ≤ maxAppLogEvents := by
  simp only [validateDiagnosticPolicy, bind_eq_ok, require_eq_ok, exists_const] at allowed
  obtain ⟨-, -, targets, selection, limit, -⟩ := allowed
  exact ⟨targets, selection, limit⟩

section Sessions

variable {session session' : AppLog × List String}

/-- A session that was collected: its last snapshot was read, and its objects are those of its reads. -/
structure Collected.Holds (reads : List (ArtifactRef × AppLog)) (session : AppLog × List String) : Prop where
  last : ∃ read ∈ reads, read.2 = session.1
  objects : session.2.Nodup ∧ session.2 ≠ [] ∧ ∀ digest, digest ∈ session.2 ↔
    ∃ read ∈ reads, read.2.session = session.1.session ∧ read.1.digest = digest

theorem Collected.holds (collected : Collected reads taken) (mem : session ∈ taken.sessions.values) :
    Collected.Holds reads session := by
  obtain ⟨value, digests⟩ := session
  obtain ⟨key, found⟩ := Dict.mem_values.mp mem
  obtain ⟨read, final, same⟩ := Option.map_eq_some_iff.mp (collected.last key value digests found)
  refine ⟨⟨read, (List.mem_filter.mp (List.mem_of_getLast? final)).1, same⟩, ?_⟩
  rw [collected.session found]
  exact collected.objects key value digests found

theorem Collected.distinct (collected : Collected reads taken) :
    taken.sessions.values.Pairwise fun session session' => session.1.session ≠ session'.1.session := by
  have keys : taken.sessions.values.map (·.1.session) = taken.sessions.keys := by
    rw [Dict.values, Dict.keys, List.map_map]
    exact List.map_congr_left fun entry mem => collected.session (Dict.mem_entries.mp mem)
  have once : (taken.sessions.values.map (·.1.session)).Nodup := keys ▸ taken.sessions.nodup
  exact List.pairwise_map.mp once

end Sessions

theorem Budgeted.shows {n : Nat} {logs : List AppLog} (budgeted : Budgeted policy n logs runs) :
    ∀ run ∈ runs, ∃ value ∈ logs, ∃ m, run.Shows policy m value := by
  induction budgeted with
  | nil => nofun
  | cons here _ ih =>
    intro run mem
    cases mem with
    | head => exact ⟨_, List.mem_cons_self, _, here⟩
    | tail _ mem =>
      obtain ⟨value, later, shown⟩ := ih run mem
      exact ⟨value, List.mem_cons_of_mem _ later, shown⟩

theorem DiagnosticRun.Shows.has {n : Nat} {value : AppLog} {run : DiagnosticRun} {selected : List String}
    (shows : run.Shows policy n value) (within : ∀ field ∈ selected, field ∈ policy.eventFields) :
    ∀ event ∈ run.events, event.Has selected := by
  intro event mem field chosen
  rw [shows.events] at mem
  obtain ⟨own, -, rfl⟩ := List.mem_map.mp mem
  rw [select_eq]
  exact ⟨_, find_map (within field chosen)⟩

namespace Derivation

variable (derivation : Derivation python repr project original sourceDigest policy readObject document reads taken)

include derivation

theorem exists_references : ∃ app references, diagnosticReferences original = .ok references ∧
    readLogs python app policy readObject references = .ok reads := by
  have read := derivation.read
  simp only [recordedLogs, bind_eq_ok, orFail_eq_ok] at read
  obtain ⟨app, -, references, selected, read⟩ := read
  exact ⟨app, references, selected, read⟩

theorem exists_reads : reads ≠ [] ∧ ∃ app, ∀ entry ∈ reads, ∃ raw, IsRead python app policy readObject entry raw := by
  obtain ⟨app, references, selected, read⟩ := derivation.exists_references
  refine ⟨fun none => ?_, app, fun entry mem => (exists_isRead read entry mem).2⟩
  have length : reads.length = references.length := length_mapM read
  simp only [diagnosticReferences, bind_eq_ok, require_eq_ok, pure_eq_ok] at selected
  obtain ⟨-, some, -, -, rfl⟩ := selected
  rw [none, List.length_nil] at length
  omega

theorem few_sources : taken.sources.length ≤ maxAppLogSnapshots := by
  obtain ⟨app, references, selected, read⟩ := derivation.exists_references
  have inside : taken.sources ⊆ references.map (·.digest) := by
    intro digest mem
    obtain ⟨entry, listed, rfl⟩ := (derivation.collected.sources.2 digest).mp mem
    exact List.mem_map_of_mem (exists_isRead read entry listed).1
  have few := (List.subperm_of_subset derivation.collected.sources.1 inside).length_le
  simp only [diagnosticReferences, bind_eq_ok, require_eq_ok, pure_eq_ok] at selected
  obtain ⟨-, some, -, -, rfl⟩ := selected
  rw [List.length_map] at few
  exact Nat.le_trans few some.2

theorem budgeted :
    Budgeted policy policy.maxEvents.toNat (lastsOf (reads.map Prod.snd)) document.runs := by
  rw [← derivation.collected.lasts]
  exact runsOf_budgeted derivation.runs

theorem named : List.Forall₂ (DiagnosticRun.Names python) taken.sessions.values document.runs :=
  runsOf_named derivation.runs

/-- The last snapshot of a session was read. -/
theorem last_read {value : AppLog} (mem : value ∈ lastsOf (reads.map Prod.snd)) : ∃ read ∈ reads, read.2 = value := by
  rw [← derivation.collected.lasts] at mem
  obtain ⟨session, collected, rfl⟩ := List.mem_map.mp mem
  exact (derivation.collected.holds collected).last

theorem run_sound (hashes : ∀ raw, isDigest (python.sha256 raw)) :
    ∀ run ∈ document.runs, run.Sound document.eventFields document.sourceObjects := by
  intro run mem
  obtain ⟨session, collected, names⟩ := exists_left derivation.named mem
  have holds := derivation.collected.holds collected
  obtain ⟨value, last, n, shows⟩ := derivation.budgeted.shows run mem
  obtain ⟨read, listed, rfl⟩ := derivation.last_read last
  obtain ⟨app, all⟩ := derivation.exists_reads.2
  obtain ⟨raw, isRead⟩ := all read listed
  obtain ⟨⟨click, screen⟩, selection, -⟩ := validateDiagnosticPolicy_selects derivation.allowed
  have shown : run.events.length ≤ read.2.events.length := by
    rw [shows.events, List.length_map]
    exact List.length_take_le' _ _
  refine ⟨digest_hashed hashes names.runDigest, ?_, ?_, ⟨shows.omitted, ?_⟩, ?_⟩
  · rw [names.objects, derivation.sources]
    refine ⟨holds.objects.2.1, fun object inside => ?_, holds.objects.1⟩
    obtain ⟨other, own, -, same⟩ := (holds.objects.2.2 object).mp inside
    exact (derivation.collected.sources.2 object).mpr ⟨other, own, same⟩
  · rw [shows.total]
    exact ⟨Int.natCast_nonneg _, Int.ofNat_le.mpr isRead.few⟩
  · rw [shows.total]
    omega
  · rw [derivation.eventFields, shows.events, List.map_map]
    exact checkShownAll_select selection click screen (checkEvents_take isRead.events) fun _ => rfl

/-- The runs of two sessions have no digest and no object in common. -/
theorem runs_apart (apart : Collisionless python (hashed python readObject reads)) :
    document.runs.Pairwise fun run run' =>
      run.runDigest ≠ run'.runDigest ∧ ∀ object ∈ run'.sourceObjects, object ∉ run.sourceObjects := by
  refine pairwise_right derivation.named derivation.collected.distinct ?_
  intro session mem session' mem' run run' names names' other
  have holds := derivation.collected.holds mem
  have holds' := derivation.collected.holds mem'
  constructor
  · intro same
    have first := names.runDigest
    have second := names'.runDigest
    simp only [digest, bind_eq_ok, orFail_eq_ok, pure_eq_ok] at first second
    obtain ⟨raw, written, hash⟩ := first
    obtain ⟨raw', written', hash'⟩ := second
    obtain ⟨read, listed, last⟩ := holds.last
    obtain ⟨read', listed', last'⟩ := holds'.last
    have text : raw ∈ hashed python readObject reads :=
      List.mem_append_right _ (List.mem_filterMap.mpr ⟨read, listed, last ▸ written⟩)
    have text' : raw' ∈ hashed python readObject reads :=
      List.mem_append_right _ (List.mem_filterMap.mpr ⟨read', listed', last' ▸ written'⟩)
    have raws : raw = raw' := apart raw text raw' text' (hash.trans (same.trans hash'.symm))
    exact other (session_of_same (dumps_same written (raws ▸ written')))
  · intro object inside' inside
    rw [names.objects] at inside
    rw [names'.objects] at inside'
    obtain ⟨read, listed, own, hash⟩ := (holds.objects.2.2 object).mp inside
    obtain ⟨read', listed', own', hash'⟩ := (holds'.objects.2.2 object).mp inside'
    obtain ⟨app, all⟩ := derivation.exists_reads.2
    obtain ⟨_, isRead⟩ := all read listed
    obtain ⟨_, isRead'⟩ := all read' listed'
    exact other (own.symm.trans ((session_of_digest apart listed listed' isRead isRead'
      (hash.trans hash'.symm)).trans own'))

/-- Every object is one of the objects of a run. -/
theorem source_used : ∀ source ∈ document.sourceObjects, ∃ run ∈ document.runs, source ∈ run.sourceObjects := by
  intro source mem
  rw [derivation.sources, derivation.collected.sources.2] at mem
  obtain ⟨read, listed, rfl⟩ := mem
  obtain ⟨session, found⟩ := derivation.collected.known.mpr ⟨read, listed, rfl⟩
  have collected := Dict.mem_values.mpr ⟨_, found⟩
  obtain ⟨run, inside, names⟩ := exists_right derivation.named collected
  refine ⟨run, inside, ?_⟩
  rw [names.objects, (derivation.collected.holds collected).objects.2.2]
  exact ⟨read, listed, (derivation.collected.session found).symm, rfl⟩

theorem few_runs : 1 ≤ document.runs.length ∧ document.runs.length ≤ maxRuns := by
  have keys : document.runs.length = taken.sessions.keys.length := by
    rw [← derivation.named.length_eq, Dict.length_values, Dict.length_keys]
  rw [keys]
  refine ⟨List.length_pos_iff.mpr fun none => ?_, derivation.collected.few⟩
  obtain ⟨read, listed⟩ := List.exists_mem_of_ne_nil reads derivation.exists_reads.1
  have mem := Dict.mem_keys.mpr (derivation.collected.known.mpr ⟨read, listed, rfl⟩)
  rw [none] at mem
  cases mem

theorem shown_limit : (document.runs.map (·.events.length)).sum =
    min policy.maxEvents.toNat ((lastsOf (reads.map Prod.snd)).map (·.events.length)).sum :=
  derivation.budgeted.limit

/-- A derived document is sound for the second check. -/
theorem sound (hashes : ∀ raw, isDigest (python.sha256 raw))
    (apart : Collisionless python (hashed python readObject reads)) : document.Sound python project := by
  obtain ⟨-, selection, -, limit⟩ := validateDiagnosticPolicy_selects derivation.allowed
  obtain ⟨build, listed, name, source, artifact⟩ := derivation.build
  have valid := validateProjectRevision_builds derivation.valid build listed
  simp only [validateBuildIdentity, isSha256, isId, isText, bind_eq_ok, require_eq_ok, each_eq_ok,
    exists_const] at valid
  obtain ⟨-, -, -, ofArtifact, -, ofSource⟩ := valid
  have sources : ∀ source ∈ document.sourceObjects, isDigest source := by
    intro source mem
    rw [derivation.sources, derivation.collected.sources.2] at mem
    obtain ⟨read, inside, rfl⟩ := mem
    obtain ⟨app, all⟩ := derivation.exists_reads.2
    obtain ⟨raw, isRead⟩ := all read inside
    exact isRead.digest ▸ hashes raw
  have some : document.sourceObjects ≠ [] := by
    obtain ⟨read, inside⟩ := List.exists_mem_of_ne_nil reads derivation.exists_reads.1
    rw [derivation.sources]
    exact List.ne_nil_of_mem ((derivation.collected.sources.2 _).mpr ⟨read, inside, rfl⟩)
  have pairs := derivation.runs_apart apart
  refine ⟨⟨digest_hashed hashes derivation.projectDigest, digest_hashed hashes derivation.recordingDigest,
    ?_, artifact ▸ ofArtifact, digest_hashed hashes derivation.policyDigest⟩, derivation.projectDigest,
    ⟨build, listed, name, derivation.source ▸ source, artifact⟩, derivation.eventFields ▸ selection,
    ⟨⟨List.length_pos_iff.mpr some, derivation.sources ▸ derivation.few_sources⟩, sources,
      derivation.sources ▸ derivation.collected.sources.1⟩, derivation.few_runs, derivation.run_sound hashes,
    List.pairwise_map.mpr (pairs.imp And.left), pairs.imp And.right, derivation.source_used, ?_, derivation.size⟩
  · rw [derivation.source]
    exact ofSource sourceDigest (Option.mem_toList.mpr source)
  · rw [derivation.shown_limit]
    omega

end Derivation

/-- What a derived document shows of the logs of its recording. -/
structure DiagnosticDocument.Discloses (policy : DiagnosticPolicy) (reads : List (ArtifactRef × AppLog))
    (document : DiagnosticDocument) : Prop where
  chained : ∀ value ∈ lastsOf (reads.map Prod.snd), ∀ read ∈ reads, read.2.session = value.session →
    Extends read.2 value
  shown : Budgeted policy policy.maxEvents.toNat (lastsOf (reads.map Prod.snd)) document.runs
  limit : (document.runs.map (·.events.length)).sum =
    min policy.maxEvents.toNat ((lastsOf (reads.map Prod.snd)).map (·.events.length)).sum

theorem Derivation.discloses
    (derivation : Derivation python repr project original sourceDigest policy readObject document reads taken) :
    document.Discloses policy reads := by
  refine ⟨fun value mem read listed same => ?_, derivation.budgeted, derivation.shown_limit⟩
  rw [← derivation.collected.lasts] at mem
  obtain ⟨⟨value, digests⟩, collected, rfl⟩ := List.mem_map.mp mem
  obtain ⟨key, found⟩ := Dict.mem_values.mp collected
  rw [derivation.collected.session found] at same
  exact derivation.collected.grown key value digests found read listed same

/-- A derived document is accepted for every choice of its fields; it shows the first events of the
last snapshot of each session within its budget, and of the events what is chosen only. -/
theorem derived_disclosed (hashes : ∀ raw, isDigest (python.sha256 raw))
    (apart : ∀ reads, recordedLogs python project original policy readObject = .ok reads →
      Collisionless python (hashed python readObject reads))
    (derived : deriveAppLogDiagnostics python repr project original sourceDigest policy readObject =
      .ok document) :
    ∃ reads, recordedLogs python project original policy readObject = .ok reads ∧
      document.Discloses policy reads ∧
      (∀ fields originalRecordingDigest, IsSelection (fields.getD policy.eventFields) →
        (∀ field ∈ fields.getD policy.eventFields, field ∈ policy.eventFields) →
        digest python (original.json repr) = .ok originalRecordingDigest →
        projectDiagnostics python document.json project sourceDigest originalRecordingDigest fields =
          .ok (document.restrict (fields.getD policy.eventFields)).json) ∧
      ∀ project' original' sourceDigest' readObject' document' reads' selected,
        deriveAppLogDiagnostics python repr project' original' sourceDigest' policy readObject' = .ok document' →
        recordedLogs python project' original' policy readObject' = .ok reads' →
        (∀ field ∈ selected, field ∈ policy.eventFields) →
        List.Forall₂ (AppLog.Alike policy selected) (reads.map Prod.snd) (reads'.map Prod.snd) →
        (document.restrict selected).runs.map (·.events) =
          (document'.restrict selected).runs.map (·.events) := by
  obtain ⟨reads, taken, derivation⟩ := exists_derivation derived
  refine ⟨reads, derivation.read, derivation.discloses, ?_, ?_⟩
  · intro fields originalRecordingDigest selection within recorded
    have sound := derivation.sound hashes (apart reads derivation.read)
    have same := derivation.recordingDigest
    rw [recorded, Except.ok.injEq] at same
    rw [same, ← derivation.source, ← derivation.eventFields]
    rw [← derivation.eventFields] at selection within
    refine projectDiagnostics_sound sound selection within fun run mem => ?_
    obtain ⟨value, -, n, shows⟩ := derivation.budgeted.shows run mem
    exact shows.has (derivation.eventFields ▸ within)
  · intro project' original' sourceDigest' readObject' document' reads' selected derived' recorded within alike
    obtain ⟨others, taken', derivation'⟩ := exists_derivation derived'
    have same := derivation'.read
    rw [recorded, Except.ok.injEq] at same
    subst same
    have runs := derivation.budgeted.alike derivation'.budgeted (lastsOf_alike alike) within
    rw [DiagnosticDocument.restrict, DiagnosticDocument.restrict, List.map_map, List.map_map]
    exact runs

section Example

/-- The digests of the five texts below, which have different lengths. -/
def appearedPython : Interpreter where
  lower := id
  casefold := id
  nfc := id
  float := String.ofList
  depth := 8
  sha256 raw :=
    if raw.length = 436 then "935fbfdb4a5ef11405a69cbfe239c4ae0a84746fd54db9c2841ea4d7ffdc8e29"
    else if raw.length = 259 then "68d3ee59c97e0670cee5a7d4cd88d4b92094e0463544f069487bcaf37cafb0c1"
    else if raw.length = 659 then "84148fee906bf987dee65434befa929f36f1f3184e6b9e706e9b5b823d397da4"
    else if raw.length = 481 then "9983782a5428145389315bf38f0296e393e99256bfc2b8398c4a275cfb890b98"
    else "f8ff47985c78194c1d0623957966fedbfdc4a7767f7d759a3ec594c450fc6c89"
  hmac _ _ := ""

def appearedProfile : String := "1900eab6c028483d7126599ee6f50de0d27907b5c65fa90524580b4b0f9852b0"

def appearedSource : String := "41cf6794ba4200b839c53531555f0f3998df4cbb01a4d5cb0b94e3ca5e23947d"

def appearedProject : ProjectRevision where
  schemaVersion := 1
  id := "shop"
  revision := "r1"
  trustGroup := "team"
  applications := [⟨"app", "ios", "io.shop", none⟩]
  builds := [⟨"build", "app", "r1", "c7c5c1d70c5dec4416ab6158afd0b223ef40c29b1dc1f97ed9428b94d4cadb1c",
    "trusted-build", some appearedSource⟩]
  variableList := []
  fixtures := []
  observations := ["log"]
  evidencePolicy := ⟨true, true, true, true, true, "deny", true⟩
  editablePaths := ["App.swift"]
  recipes := []
  executionClasses := ["host-build"]

def appearedReference : ArtifactRef :=
  ⟨"log", "935fbfdb4a5ef11405a69cbfe239c4ae0a84746fd54db9c2841ea4d7ffdc8e29", "log.json", 436, appLogMime⟩

def appearedOriginal : OriginalEvidence where
  schemaVersion := 1
  recordingId := "recording"
  projectId := "shop"
  projectRevision := "r1"
  applicationId := "app"
  buildId := "build"
  startedAtMs := 9
  endSequence := 0
  events := []
  preparation := []
  observations := [appearedReference]
  media := []
  clockSource := "monotonic"
  uncertaintyMs := 0
  interruptions := []
  unknowns := []
  sealedEvidence := true

def appearedPolicy : DiagnosticPolicy where
  schemaVersion := 1
  projectDigest := "84148fee906bf987dee65434befa929f36f1f3184e6b9e706e9b5b823d397da4"
  applicationId := "app"
  profileDigest := appearedProfile
  clickTargets := []
  screenTargets := ["Cart"]
  eventFields := ["seq", "type", "name", "target"]
  maxEvents := 1

def appearedLog : AppLog where
  identity := ⟨1, "ios", "io.shop", "11111111-2222-4333-8444-555555555555",
    "66666666-7777-4888-8999-aaaaaaaaaaaa", appearedProfile, 5⟩
  endSequence := 1
  truncated := false
  lostEvents := false
  events := [⟨1, 3, "screen", "appeared", "view", "app", some "Cart"⟩]

/-- The object of the log: its document, written with its keys in order. -/
def appearedDocument : Json :=
  .dict [("applicationId", .str "io.shop"), ("endSequence", .int 1), ("events", .list [.dict
      [("component", .str "view"), ("componentId", .str "app"), ("elapsedMs", .int 3), ("name", .str "appeared"),
        ("seq", .int 1), ("target", .str "Cart"), ("type", .str "screen")]]), ("lostEvents", .bool false),
    ("platform", .str "ios"), ("profileDigest", .str appearedProfile),
    ("runId", .str "11111111-2222-4333-8444-555555555555"), ("schemaVersion", .int 1),
    ("sessionId", .str "66666666-7777-4888-8999-aaaaaaaaaaaa"), ("startedAtMs", .int 5), ("truncated", .bool false)]

def appearedChars : List Char := (appearedDocument.write 8).getD []

def appearedText : Bytes := utf8 (String.ofList appearedChars)

/-- What is evaluated of the log. -/
theorem appeared_log :
    (appearedChars.flatMap String.utf8EncodeChar).length = 436 ∧
    ((Json.read (reader appearedPython) 8 appearedChars).any fun document =>
      document.write 8 = some appearedChars ∧ (AppLog.read document).toOption = some appearedLog) = true ∧
    (validateAppLogMarker appearedLog.identity "ios" "io.shop" appearedPolicy.profileDigest
      appearedLog.identity.runId).toOption = some () ∧
    (validateAppLogMarker appearedLog.identity appearedLog.identity.platform appearedLog.identity.applicationId
      appearedLog.identity.profileDigest appearedLog.identity.runId).toOption = some () ∧
    (checkEvents appearedPolicy.clickTargets appearedPolicy.screenTargets 1 0 appearedLog.events).toOption = some () ∧
    ((appearedLog.identity.json.write 8).map (·.flatMap String.utf8EncodeChar)).any
      (fun text => text.length = 259) = true := by
  simp only [appearedChars, Json.write_eq]
  refine ⟨?_, ?_, ?_, ?_, ?_, ?_⟩ <;> decide +kernel

theorem appeared_length : appearedText.length = 436 := by
  rw [appearedText, utf8_ofList]
  exact appeared_log.1

theorem appeared_json : ∃ document, diagnosticJson appearedPython appearedText maxAppLogBytes = .ok document ∧
    canonical appearedPython document = some appearedText ∧ AppLog.read document = .ok appearedLog := by
  obtain ⟨document, read, same⟩ := (Option.any_eq_true _ _).mp appeared_log.2.1
  obtain ⟨written, log⟩ := of_decide_eq_true same
  refine ⟨document, ?_, ?_, toOption_eq_some.mp log⟩
  · simp only [diagnosticJson, bind_eq_ok, require_eq_ok, orFail_eq_ok, appeared_length]
    refine ⟨(), by decide, _, fromUTF8?_utf8, ?_⟩
    rw [String.toList_ofList]
    exact read
  · rw [canonical, dumps, show appearedPython.depth = 8 from rfl, written]
    rfl

theorem appeared_hash {raw : Bytes} (length : raw.length = 436) :
    appearedPython.sha256 raw = appearedReference.digest := if_pos length

theorem appeared_read : readLog appearedPython ⟨"app", "ios", "io.shop", none⟩ appearedPolicy appearedReference
    appearedText = .ok appearedLog := by
  obtain ⟨document, json, dumped, log⟩ := appeared_json
  obtain ⟨-, -, marked, remarked, checked, -⟩ := appeared_log
  simp only [readLog, validateAppLog, bind_eq_ok, require_eq_ok, pure_eq_ok, orFail_eq_ok]
  refine ⟨(), ⟨congrArg Nat.cast appeared_length, appeared_hash appeared_length⟩, document, json, (), dumped,
    appearedLog, log, (), toOption_eq_some.mp marked, (), ?_, rfl⟩
  refine ⟨(), toOption_eq_some.mp remarked, (), by decide, (), toOption_eq_some.mp checked, appearedText, dumped, ?_⟩
  rw [appeared_length]
  decide

theorem appeared_references : diagnosticReferences appearedOriginal = .ok [appearedReference] := rfl

theorem appeared_recorded :
    recordedLogs appearedPython appearedProject appearedOriginal appearedPolicy (fun _ => .ok appearedText) =
      .ok [(appearedReference, appearedLog)] := by
  simp only [recordedLogs, readLogs, bind_eq_ok, orFail_eq_ok]
  refine ⟨⟨"app", "ios", "io.shop", none⟩, rfl, [appearedReference], appeared_references, ?_⟩
  simp only [List.mapM_cons, List.mapM_nil, bind_eq_ok, pure_eq_ok, Except.ok.injEq, exists_eq_left',
    appeared_read]

theorem appeared_identity : ∃ text, dumps appearedPython appearedLog.identity.json = some text ∧
    text.length = 259 := by
  obtain ⟨text, written, length⟩ := (Option.any_eq_true _ _).mp appeared_log.2.2.2.2.2
  exact ⟨text, dumps_eq.trans written, of_decide_eq_true length⟩

theorem appeared_hash_identity {raw : Bytes} (length : raw.length = 259) :
    appearedPython.sha256 raw = "68d3ee59c97e0670cee5a7d4cd88d4b92094e0463544f069487bcaf37cafb0c1" :=
  (if_neg (by omega)).trans (if_pos length)

def appearedShown : DiagnosticDocument where
  projectDigest := appearedPolicy.projectDigest
  recordingDigest := "9983782a5428145389315bf38f0296e393e99256bfc2b8398c4a275cfb890b98"
  buildId := "build"
  sourceDigest := appearedSource
  artifactDigest := "c7c5c1d70c5dec4416ab6158afd0b223ef40c29b1dc1f97ed9428b94d4cadb1c"
  policyDigest := "f8ff47985c78194c1d0623957966fedbfdc4a7767f7d759a3ec594c450fc6c89"
  sourceObjects := [appearedReference.digest]
  eventFields := ["seq", "type", "name", "target"]
  runs := [⟨"68d3ee59c97e0670cee5a7d4cd88d4b92094e0463544f069487bcaf37cafb0c1", [appearedReference.digest],
    false, false, 1, 0, [[("seq", .int 1), ("type", .str "screen"), ("name", .str "appeared"),
      ("target", .str "Cart")]]⟩]

/-- The digest of a document, from its characters. -/
def charsDigest (document : Json) : Option String :=
  (document.write 8).map fun text => appearedPython.sha256 (text.flatMap String.utf8EncodeChar)

theorem digest_of_chars {document : Json} {found : String} (h : charsDigest document = some found) :
    digest appearedPython document = .ok found := by
  obtain ⟨text, written, rfl⟩ := Option.map_eq_some_iff.mp h
  rw [digest_eq, show appearedPython.depth = 8 from rfl, written]
  rfl

theorem appeared_digests :
    charsDigest appearedLog.identity.json =
      some "68d3ee59c97e0670cee5a7d4cd88d4b92094e0463544f069487bcaf37cafb0c1" ∧
    charsDigest appearedProject.json = some appearedPolicy.projectDigest ∧
    charsDigest (appearedOriginal.json fun _ => "") = some appearedShown.recordingDigest ∧
    charsDigest appearedPolicy.json = some appearedShown.policyDigest := by
  simp only [charsDigest, Json.write_eq]
  refine ⟨?_, ?_, ?_, ?_⟩ <;> decide +kernel

/-- What is evaluated of the other documents. -/
theorem appeared_documents :
    (validateProjectRevision appearedPython appearedProject).toOption = some () ∧
    (validateOriginalEvidence appearedPython appearedOriginal).toOption = some () ∧
    (isDigest appearedPolicy.projectDigest ∧ isDigest appearedPolicy.profileDigest ∧
      isIdentifier appearedPolicy.applicationId) ∧
    (AreTargets appearedPolicy.clickTargets ∧ AreTargets appearedPolicy.screenTargets) ∧
    ((appearedShown.json.write 8).map (·.flatMap String.utf8EncodeChar)).any
      (fun raw => raw.length ≤ maxDiagnosticBytes) = true := by
  simp only [Json.write_eq]
  refine ⟨?_, ?_, ?_, ?_, ?_⟩ <;> decide +kernel

theorem appeared_recording : digest appearedPython (appearedOriginal.json fun _ => "") =
    .ok appearedShown.recordingDigest := digest_of_chars appeared_digests.2.2.1

theorem appeared_derived : deriveAppLogDiagnostics appearedPython (fun _ => "") appearedProject appearedOriginal
    appearedSource appearedPolicy (fun _ => .ok appearedText) = .ok appearedShown := by
  obtain ⟨session, described, recorded, limited⟩ := appeared_digests
  obtain ⟨revision, evidence, digests, targets, written⟩ := appeared_documents
  have project : validateProjectRevision appearedPython appearedProject = .ok () := toOption_eq_some.mp revision
  have original : validateOriginalEvidence appearedPython appearedOriginal = .ok () := toOption_eq_some.mp evidence
  have projectDigest : digest appearedPython appearedProject.json = .ok appearedPolicy.projectDigest :=
    digest_of_chars described
  have policy : validateDiagnosticPolicy appearedPython appearedPolicy appearedProject = .ok () := by
    simp only [validateDiagnosticPolicy, bind_eq_ok, require_eq_ok, mapError_eq_ok, projectDigest, project,
      Except.ok.injEq, exists_eq_left']
    exact ⟨(), rfl, (), digests, (), targets, (), by decide, (), by decide, (), trivial, (), by decide, trivial⟩
  have snapshots : collectSnapshots appearedPython ⟨"app", "ios", "io.shop", none⟩ appearedPolicy
      (fun _ => .ok appearedText) [appearedReference] =
        .ok ⟨Dict.empty.set appearedLog.identity.sessionId (appearedLog, [appearedReference.digest]),
          [appearedReference.digest]⟩ := by
    simp only [collectSnapshots, List.foldlM_cons, List.foldlM_nil, bind_eq_ok, pure_eq_ok, Except.ok.injEq,
      exists_eq_left', appeared_read]
    exact ⟨_, rfl, rfl⟩
  have runs : runsOf appearedPython appearedPolicy 1 [(appearedLog, [appearedReference.digest])] =
      .ok appearedShown.runs := by
    simp only [runsOf, digest_of_chars session, bind_eq_ok, pure_eq_ok, Except.ok.injEq, exists_eq_left']
    rfl
  obtain ⟨raw, dumped, small⟩ := (Option.any_eq_true _ _).mp written
  have shown : canonical appearedPython appearedShown.json = some raw := dumps_eq.trans dumped
  simp only [deriveAppLogDiagnostics, mapError_eq_ok, derive, bind_eq_ok, require_eq_ok, pure_eq_ok, orFail_eq_ok,
    project, original, policy, appeared_references, Except.ok.injEq, exists_eq_left', projectDigest,
    digest_of_chars recorded, digest_of_chars limited]
  refine ⟨(), trivial, (), trivial, (), trivial, ⟨"build", "app", "r1",
    "c7c5c1d70c5dec4416ab6158afd0b223ef40c29b1dc1f97ed9428b94d4cadb1c", "trusted-build", some appearedSource⟩,
    rfl, (), ⟨rfl, rfl, rfl, rfl, rfl⟩, ⟨"app", "ios", "io.shop", none⟩, rfl, _,
    snapshots, appearedShown.runs, ?_, raw, ?_, (), of_decide_eq_true small, ?_⟩
  · exact runs
  · exact shown
  · rfl

/-- A log of one event, of which three fields are shown. -/
theorem derived_disclosed_appeared : ∃ reads, appearedShown.Discloses appearedPolicy reads ∧
    projectDiagnostics appearedPython appearedShown.json appearedProject appearedSource
      appearedShown.recordingDigest (some ["seq", "type", "name"]) =
        .ok (appearedShown.restrict ["seq", "type", "name"]).json := by
  have hashes (raw : Bytes) : isDigest (appearedPython.sha256 raw) := by
    change isDigest (if raw.length = 436 then _ else if raw.length = 259 then _ else if raw.length = 659 then _
      else if raw.length = 481 then _ else _)
    split_ifs <;> decide +kernel
  have apart (reads : List (ArtifactRef × AppLog)) (recorded : recordedLogs appearedPython appearedProject
      appearedOriginal appearedPolicy (fun _ => .ok appearedText) = .ok reads) :
      Collisionless appearedPython (hashed appearedPython (fun _ => .ok appearedText) reads) := by
    rw [appeared_recorded, Except.ok.injEq] at recorded
    subst recorded
    obtain ⟨text, dumped, length⟩ := appeared_identity
    have texts : hashed appearedPython (fun _ => .ok appearedText) [(appearedReference, appearedLog)] =
        [appearedText, text] := by
      simp only [hashed, List.filterMap_cons, List.filterMap_nil, Except.toOption, dumped, List.cons_append,
        List.nil_append]
    have different : appearedPython.sha256 appearedText ≠ appearedPython.sha256 text := by
      rw [appeared_hash appeared_length, appeared_hash_identity length]
      decide
    rw [texts]
    intro a mem b mem' same
    simp only [List.mem_cons, List.not_mem_nil, or_false] at mem mem'
    rcases mem with first | second
    · rcases mem' with first' | second'
      · exact first.trans first'.symm
      · exact absurd (first ▸ second' ▸ same) different
    · rcases mem' with first' | second'
      · exact absurd (first' ▸ second ▸ same.symm) different
      · exact second.trans second'.symm
  obtain ⟨reads, -, discloses, accepted, -⟩ := derived_disclosed hashes apart appeared_derived
  exact ⟨reads, discloses, accepted (some ["seq", "type", "name"]) _ (by decide) (by decide) appeared_recording⟩

end Example

end Reproof.Repair.Diagnostics

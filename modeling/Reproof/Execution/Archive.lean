import Reproof.Execution.Runs

/-! The archive keeps every operation: what is in it, in `runs` or in both agrees, and the summary in
`state.json` counts what is in the archive alone. -/

namespace Reproof.Execution

open Contracts Library Journal

namespace Journal

variable {store : RunStore} {j t : Journal} {id : String}

/-- The archived documents that `state.json` accounts for. -/
def official (j : Journal) : Dict String ArchiveDocument :=
  j.archived.filterKeys (· ∉ j.state.runs.keys)

def summary (store : RunStore) (documents : Dict String ArchiveDocument) : Option Archive :=
  if documents.entries = [] then none
  else some ⟨documents.entries.length, store.digest (sorted documents)⟩

/-- An archived document of a record that is still in `runs`. -/
structure Pending (j : Journal) (id : String) (d : ArchiveDocument) (r : Record) : Prop where
  terminal : r.state.Terminal
  zero : r.reservedBytes = 0
  gone : j.directories.get? id = none
  document : d = r.document id

structure Ordered (store : RunStore) (j : Journal) : Prop where
  environment : j.state.environmentDigest = store.environmentDigest
  room : j.state.runs.keys.length ≤ maxRuns
  scope : ∀ scope ∈ j.state.scope, isDigest scope.scopeDigest
  accepted : ∀ id r, j.state.runs.get? id = some r → r.Accepted id
  summary : j.state.archive = summary store j.official
  filed : ∀ id d, j.archived.get? id = some d → isIdentifier id ∧ d.Accepted id
  pending : ∀ id d r, j.archived.get? id = some d → j.state.runs.get? id = some r → Pending j id d r

theorem length_sorted {documents : Dict String ArchiveDocument} :
    (sorted documents).length = documents.entries.length := by
  simp [sorted]

theorem Ordered.fresh : Ordered store store.fresh where
  environment := rfl
  room := Nat.zero_le _
  scope _ mem := nomatch mem
  accepted _ _ found := nomatch found
  summary := rfl
  filed _ _ found := nomatch found
  pending _ _ _ found := nomatch found

/-- A record that is not settled has no archived document. -/
theorem Ordered.unarchived {r : Record} (ordered : Ordered store j)
    (found : j.state.runs.get? id = some r) (live : ¬ r.state.Terminal) :
    j.archived.get? id = none := by
  cases archived : j.archived.get? id with
  | none => rfl
  | some d => exact absurd (ordered.pending id d r archived found).terminal live

/-- A record that is not settled may be changed where it stands. -/
theorem Ordered.update {r r' : Record} (ordered : Ordered store j)
    (found : j.state.runs.get? id = some r) (live : ¬ r.state.Terminal) (accepted : r'.Accepted id) :
    Ordered store { j with state := { j.state with runs := j.state.runs.set id r' } } := by
  have keys : (j.state.runs.set id r').keys = j.state.runs.keys := by
    rw [Dict.keys_set, if_pos (Dict.mem_keys.mpr ⟨r, found⟩)]
  refine ⟨ordered.environment, ?_, ordered.scope, fun k s found' => ?_, ?_, ordered.filed,
    fun k d s archived found' => ?_⟩
  · simp only [keys]
    exact ordered.room
  · rcases Dict.get?_set_some found' with ⟨rfl, rfl⟩ | ⟨-, old⟩
    · exact accepted
    · exact ordered.accepted k s old
  · simp only [official, keys]
    exact ordered.summary
  · rcases Dict.get?_set_some found' with ⟨rfl, rfl⟩ | ⟨-, old⟩
    · cases archived.symm.trans (ordered.unarchived found live)
    · obtain ⟨terminal, zero, gone, document⟩ := ordered.pending k d s archived old
      exact ⟨terminal, zero, gone, document⟩

theorem Ordered.directories {directories : Dict String RunDirectory} (ordered : Ordered store j)
    (gone : ∀ id r, j.state.runs.get? id = some r → r.state.Terminal →
      j.directories.get? id = none → directories.get? id = none) :
    Ordered store { j with directories } := by
  refine ⟨ordered.environment, ordered.room, ordered.scope, ordered.accepted, ordered.summary,
    ordered.filed, fun id d r archived found => ?_⟩
  obtain ⟨terminal, zero, absent, document⟩ := ordered.pending id d r archived found
  exact ⟨terminal, zero, gone id r found terminal absent, document⟩

theorem Step.ordered (step : Step store j t) (ordered : Ordered store j) : Ordered store t := by
  cases step with
  | quarantine =>
    have get : ∀ id r, (j.state.runs.mapValues Record.quarantine).get? id = some r →
        ∃ r', j.state.runs.get? id = some r' ∧ r'.quarantine = r := fun id r found => by
      rw [Dict.get?_mapValues] at found
      exact Option.map_eq_some_iff.mp found
    refine ⟨ordered.environment, ?_, ordered.scope, fun id r found => ?_, ?_, ordered.filed,
      fun id d r archived found => ?_⟩
    · rw [Dict.keys_mapValues]
      exact ordered.room
    · obtain ⟨r', found', rfl⟩ := get id r found
      exact (ordered.accepted id r' found').quarantine
    · simp only [official, Dict.keys_mapValues]
      exact ordered.summary
    · obtain ⟨r', found', rfl⟩ := get id r found
      have pending := ordered.pending id d r' archived found'
      rw [Record.quarantine_of_terminal pending.terminal]
      exact ⟨pending.terminal, pending.zero, pending.gone, pending.document⟩
  | @record new record accepted admitted reserved fresh unarchived room settled budget =>
    refine ⟨ordered.environment, ?_, ordered.scope, fun id r found => ?_, ?_, ordered.filed,
      fun id d r archived found => ?_⟩
    · rw [Dict.keys_set, if_neg fresh, List.length_append]
      exact room
    · rcases Dict.get?_set_some found with ⟨rfl, rfl⟩ | ⟨-, old⟩
      · exact accepted
      · exact ordered.accepted id r old
    · rw [ordered.summary]
      refine congrArg _ (Dict.filterKeys_congr fun k mem => ?_)
      rw [Dict.mem_keys_set, not_or]
      exact ⟨fun absent => ⟨fun same => unarchived (same ▸ mem), absent⟩, fun h => h.2⟩
    · rcases Dict.get?_set_some found with ⟨rfl, rfl⟩ | ⟨-, old⟩
      · exact absurd (Dict.mem_keys.mpr ⟨d, archived⟩) unarchived
      · obtain ⟨terminal, zero, gone, document⟩ := ordered.pending id d r archived old
        exact ⟨terminal, zero, gone, document⟩
  | @directory new record directory found live absent =>
    refine ordered.directories fun id r found' terminal gone => ?_
    rw [Dict.get?_set, if_neg, gone]
    rintro rfl
    cases found.symm.trans found'
    exact live terminal
  | @contents other directory directory' present =>
    refine ordered.directories fun id r found terminal gone => ?_
    rw [Dict.get?_set, if_neg, gone]
    rintro rfl
    cases present.symm.trans gone
  | remove other =>
    refine ordered.directories fun id r found terminal gone => ?_
    rw [Dict.get?_erase, gone, ite_self]
  | @hold held record found live =>
    refine ordered.update found live ?_
    obtain ⟨identifier, digest, bytes, -⟩ := ordered.accepted _ _ found
    exact ⟨identifier, digest, bytes, False.elim⟩
  | @archive new record found terminal zero gone fresh =>
    obtain ⟨identifier, digest, bytes, -⟩ := ordered.accepted _ _ found
    refine ⟨ordered.environment, ordered.room, ordered.scope, ordered.accepted, ?_,
      fun id d archived => ?_, fun id d r archived found' => ?_⟩
    · rw [ordered.summary]
      refine congrArg _ (Dict.filterKeys_set ?_).symm
      exact not_not.mpr (Dict.mem_keys.mpr ⟨record, found⟩)
    · rcases Dict.get?_set_some archived with ⟨rfl, rfl⟩ | ⟨-, old⟩
      · exact ⟨identifier, rfl, terminal, rfl, digest⟩
      · exact ordered.filed id d old
    · rcases Dict.get?_set_some archived with ⟨rfl, rfl⟩ | ⟨-, old⟩
      · cases found.symm.trans found'
        exact ⟨terminal, zero, gone, rfl⟩
      · obtain ⟨terminal, zero, gone, document⟩ := ordered.pending id d r old found'
        exact ⟨terminal, zero, gone, document⟩
  | @commit ids nonempty filed covers =>
    have left : ∀ id, id ∈ j.archived.keys → id ∉ (j.state.runs.filterKeys (· ∉ ids)).keys := by
      intro id archived mem
      rw [Dict.keys_filterKeys, List.mem_filter] at mem
      exact of_decide_eq_true mem.2 (covers id archived mem.1)
    refine ⟨ordered.environment, ?_, ordered.scope, fun id r found => ?_, ?_, ordered.filed,
      fun id d r archived found => ?_⟩
    · rw [Dict.keys_filterKeys]
      exact Nat.le_trans (List.length_filter_le _ _) ordered.room
    · exact ordered.accepted id r (Dict.get?_filterKeys_some found).2
    · have all : j.archived.filterKeys (· ∉ (j.state.runs.filterKeys (· ∉ ids)).keys) =
          j.archived := Dict.filterKeys_eq_self left
      have some_filed : j.archived.entries ≠ [] := by
        obtain ⟨id, mem⟩ := List.exists_mem_of_ne_nil ids nonempty
        obtain ⟨r, -, -, -, -, archived⟩ := filed id mem
        exact List.ne_nil_of_mem (Dict.mem_entries.mpr archived)
      change some _ = Journal.summary store (j.archived.filterKeys _)
      rw [all, Journal.summary, if_neg some_filed, length_sorted]
    · exact absurd (Dict.mem_keys.mpr ⟨r, found⟩) (left id (Dict.mem_keys.mpr ⟨d, archived⟩))
  | cancel =>
    refine ⟨ordered.environment, ordered.room, ordered.scope, ordered.accepted, ordered.summary,
      ordered.filed, fun id d r archived found => ?_⟩
    obtain ⟨terminal, zero, gone, document⟩ := ordered.pending id d r archived found
    exact ⟨terminal, zero, gone, document⟩
  | scope valid =>
    refine ⟨ordered.environment, ordered.room, ?_, ordered.accepted, ordered.summary,
      ordered.filed, fun id d r archived found => ?_⟩
    · rintro _ ⟨⟩
      exact valid
    · obtain ⟨terminal, zero, gone, document⟩ := ordered.pending id d r archived found
      exact ⟨terminal, zero, gone, document⟩

theorem Settle.ordered (settle : Settle id j t) (ordered : Ordered store j) : Ordered store t := by
  cases settle with
  | @intro record outcome found live gone terminal =>
    obtain ⟨identifier, digest, -, -⟩ := ordered.accepted id record found
    exact ordered.update found live ⟨identifier, digest,
      ⟨Int.le_refl _, (by decide : (0 : Int) ≤ maxBytes)⟩, fun _ => rfl⟩

theorem Quiet.ordered (quiet : Quiet store j t) (ordered : Ordered store j) : Ordered store t := by
  induction quiet with
  | refl => exact ordered
  | tail _ step ih => exact step.ordered ih

theorem Moves.ordered (moves : Moves store j t) (ordered : Ordered store j) : Ordered store t := by
  rcases moves with quiet | ⟨id, u, quiet, -, settle⟩
  · exact Quiet.ordered quiet ordered
  · exact settle.ordered (Quiet.ordered quiet ordered)

/-- The request and the state of an operation, wherever its record is. -/
def recorded (j : Journal) (id : String) : Option (String × RunState) :=
  match j.state.runs.get? id with
  | some r => some (r.requestDigest, r.state)
  | none => (j.archived.get? id).map fun d => (d.requestDigest, d.state)

/-- An operation keeps its request, and the state it has once it is settled. -/
def Remembers (j t : Journal) : Prop :=
  ∀ id digest state, j.recorded id = some (digest, state) →
    ∃ state', t.recorded id = some (digest, state') ∧ (state.Terminal → state' = state)

theorem Remembers.refl : Remembers j j := fun _ _ state h => ⟨state, h, fun _ => rfl⟩

theorem Remembers.trans {u : Journal} (first : Remembers j t) (next : Remembers t u) :
    Remembers j u := by
  intro id digest state h
  obtain ⟨state', h', same⟩ := first id digest state h
  obtain ⟨state'', h'', same'⟩ := next id digest state' h'
  refine ⟨state'', h'', fun terminal => ?_⟩
  have terminal' : state'.Terminal := by
    rw [same terminal]
    exact terminal
  rw [same' terminal', same terminal]

/-- A record that is not settled may change its state where it stands. -/
theorem Remembers.update {r r' : Record} (found : j.state.runs.get? id = some r)
    (live : ¬ r.state.Terminal) (same : r'.requestDigest = r.requestDigest) :
    Remembers j { j with state := { j.state with runs := j.state.runs.set id r' } } := by
  intro k digest state h
  unfold recorded at h ⊢
  dsimp only
  by_cases here : k = id
  · subst here
    rw [found] at h
    cases h
    rw [Dict.get?_set, if_pos rfl]
    exact ⟨r'.state, by simp only [same], fun terminal => absurd terminal live⟩
  · rw [Dict.get?_set, if_neg here]
    exact ⟨state, h, fun _ => rfl⟩

theorem Step.remembers (step : Step store j t) : Remembers j t := by
  cases step with
  | quarantine =>
    intro id digest state h
    unfold recorded at h ⊢
    dsimp only
    rw [Dict.get?_mapValues]
    cases found : j.state.runs.get? id with
    | none =>
      rw [found] at h
      exact ⟨state, h, fun _ => rfl⟩
    | some r =>
      rw [found] at h
      cases h
      refine ⟨r.quarantine.state, ?_, fun terminal => ?_⟩
      · simp only [Option.map_some, Record.quarantine_requestDigest]
      · rw [Record.quarantine_of_terminal terminal]
  | @record new record accepted admitted reserved fresh unarchived room settled budget =>
    intro id digest state h
    unfold recorded at h ⊢
    dsimp only
    by_cases here : id = new
    · subst here
      rw [Dict.get?_eq_none.mpr fresh, Dict.get?_eq_none.mpr unarchived] at h
      cases h
    · rw [Dict.get?_set, if_neg here]
      exact ⟨state, h, fun _ => rfl⟩
  | @hold held record found live => exact .update found live rfl
  | @archive new record found terminal zero gone fresh =>
    intro id digest state h
    unfold recorded at h ⊢
    dsimp only
    by_cases here : id = new
    · subst here
      rw [found] at h ⊢
      exact ⟨state, h, fun _ => rfl⟩
    · rw [Dict.get?_set, if_neg here]
      exact ⟨state, h, fun _ => rfl⟩
  | @commit ids nonempty filed covers =>
    intro id digest state h
    unfold recorded at h ⊢
    dsimp only
    rw [Dict.get?_filterKeys]
    by_cases mem : id ∈ ids
    · obtain ⟨r, found, -, -, -, archived⟩ := filed id mem
      rw [if_neg (not_not.mpr mem), archived]
      rw [found] at h
      exact ⟨state, h, fun _ => rfl⟩
    · rw [if_pos mem]
      exact ⟨state, h, fun _ => rfl⟩
  | directory | contents | remove | cancel | scope => exact .refl

theorem Settle.remembers (settle : Settle id j t) : Remembers j t := by
  cases settle with
  | intro found live gone terminal => exact .update found live rfl

theorem Quiet.remembers (quiet : Quiet store j t) : Remembers j t := by
  induction quiet with
  | refl => exact .refl
  | tail _ step ih => exact ih.trans step.remembers

theorem Moves.remembers (moves : Moves store j t) : Remembers j t := by
  rcases moves with quiet | ⟨id, u, quiet, -, settle⟩
  · exact Quiet.remembers quiet
  · exact (Quiet.remembers quiet).trans settle.remembers

theorem length_official :
    j.archived.keys.length - j.pending.length = j.official.entries.length := by
  have split := @List.length_eq_length_filter_add _ j.archived.keys (fun id => id ∈ j.state.runs.keys)
  rw [← Dict.length_keys, official, Dict.keys_filterKeys]
  unfold pending
  simp only [decide_not] at split ⊢
  omega

theorem Ordered.count (ordered : Ordered store j) :
    (j.state.archive.map (·.count)).getD 0 = j.official.entries.length := by
  rw [ordered.summary, Journal.summary]
  split
  · rename_i empty
    rw [empty]
    rfl
  · rfl

/-- `_load` takes the journal as long as the archive is not too large to be counted. -/
theorem Ordered.load (ordered : Ordered store j)
    (bounded : j.official.entries.length ≤ maxArchived) : j.Accepted store := by
  refine ⟨ordered.environment, ordered.room, ordered.scope, fun entry mem => ?_, ?_, ?_, ?_, ?_⟩
  · exact ordered.accepted entry.1 entry.2 (Dict.mem_entries.mp mem)
  · intro archive mem
    rw [ordered.summary, Journal.summary] at mem
    split at mem
    · cases mem
    · rename_i nonempty
      cases mem
      exact ⟨⟨List.length_pos_iff.mpr nonempty, bounded⟩, store.digestValid _⟩
  · intro name mem
    obtain ⟨d, archived⟩ := Dict.mem_keys.mp mem
    exact (ordered.filed name d archived).1
  · rw [length_official, ordered.count]
  · intro name mem r found
    obtain ⟨mem, -⟩ := List.mem_filter.mp mem
    obtain ⟨d, archived⟩ := Dict.mem_keys.mp mem
    exact (ordered.pending name d r archived found).terminal

theorem Ordered.counted (ordered : Ordered store j)
    (bounded : ∀ archive ∈ j.state.archive, archive.count ≤ maxArchived) : j.Accepted store := by
  refine ordered.load ?_
  rw [← ordered.count]
  cases archive : j.state.archive with
  | none => exact Nat.zero_le _
  | some archive' => exact bounded archive' archive

theorem Ordered.archivedRecord (ordered : Ordered store j) :
    j.archivedRecord id = .ok (j.archived.get? id) := by
  unfold Journal.archivedRecord
  split
  · rename_i absent
    rw [absent]
  · rename_i d archived
    rw [if_pos (ordered.filed id d archived).2, archived]

theorem Ordered.status (ordered : Ordered store j) (accepted : j.Accepted store) {digest : String}
    {state : RunState} (known : j.recorded id = some (digest, state)) :
    ∃ r, store.status j id = .ok r ∧ r.requestDigest = digest ∧ r.state = state := by
  unfold recorded at known
  simp only [RunStore.status, bind_eq_ok, require_eq_ok, load_eq_ok, ordered.archivedRecord]
  cases found : j.state.runs.get? id with
  | none =>
    rw [found] at known
    obtain ⟨d, archived, document⟩ := Option.map_eq_some_iff.mp known
    cases document
    refine ⟨⟨d.requestDigest, d.state, d.reservedBytes⟩, ⟨(), (ordered.filed id d archived).1, _,
      ⟨accepted, rfl⟩, _, rfl, ?_⟩, rfl, rfl⟩
    rw [found, archived]
  | some r =>
    rw [found] at known
    cases known
    refine ⟨r, ⟨(), (ordered.accepted id r found).1, _, ⟨accepted, rfl⟩, _, rfl, ?_⟩, rfl, rfl⟩
    cases archived : j.archived.get? id with
    | none => rw [found]
    | some d =>
      obtain ⟨terminal, -, -, rfl⟩ := ordered.pending id d r archived found
      simp only [found, bind_eq_ok, require_eq_ok]
      exact ⟨(), ⟨terminal, rfl, rfl⟩, rfl⟩

theorem recorded_of_status {r : Record} (known : store.status j id = .ok r) :
    j.recorded id = some (r.requestDigest, r.state) := by
  simp only [RunStore.status, bind_eq_ok] at known
  obtain ⟨-, -, value, loaded, archived, read, known⟩ := known
  obtain ⟨-, rfl⟩ := load_eq_ok.mp loaded
  unfold recorded
  cases found : j.state.runs.get? id with
  | none =>
    rw [found] at known
    cases archived with
    | none => cases known
    | some d =>
      cases known
      unfold Journal.archivedRecord at read
      split at read
      · cases read
      · rename_i archived
        split at read
        · cases read
          rw [archived]
          rfl
        · cases read
  | some r' =>
    rw [found] at known
    cases archived with
    | none =>
      cases known
      rfl
    | some d =>
      simp only [bind_eq_ok, pure_eq_ok] at known
      obtain ⟨-, -, rfl⟩ := known
      rfl

end Journal

section Succeeds

variable {store : RunStore} {j : Journal}

/-- The call was answered without an error. -/
def Answer.Done (answer : Answer) : Prop := answer.fate = .done

variable {good : Answer → Prop} (done : ∀ answer, good answer → answer.Done)

include done

theorem succeeds_call {e : Failure} {Q : Nat → Journal → Prop}
    (hq : ∀ answer, good answer → Q answer.value j) : (call e).Succeeds good Q j := by
  unfold call
  simp only [Prog.succeeds_bind, Prog.succeeds_answer]
  intro answer fine
  rw [done answer fine]
  exact hq answer fine

theorem succeeds_durable {f : Journal → Journal} {e : Failure} {Q : Unit → Journal → Prop}
    (hq : Q () (f j)) : (durable f e).Succeeds good Q j := by
  unfold durable
  simp only [Prog.succeeds_bind, Prog.succeeds_answer]
  intro answer fine
  rw [done answer fine]
  exact hq

theorem succeeds_reading {α : Type} {message : String} {f : Journal → Except Failure α} {a : α}
    {Q : α → Journal → Prop} (ok : f j = .ok a) (hq : Q a j) :
    (RunStore.reading message f).Succeeds good Q j := by
  unfold RunStore.reading
  rw [Prog.succeeds_bind]
  refine succeeds_call done fun _ _ => ?_
  rw [Prog.succeeds_bind, Prog.succeeds_read]
  exact Prog.succeeds_ofExcept ok hq

theorem succeeds_archiveFiles {runs : Dict String Record} {ids : List String} :
    (RunStore.archiveFiles runs ids).Succeeds good
      (fun _ t => t.state = j.state ∧ t.directories = j.directories) j := by
  induction ids generalizing j with
  | nil => exact ⟨rfl, rfl⟩
  | cons id ids ih =>
    unfold RunStore.archiveFiles
    simp only [Prog.succeeds_bind, Prog.succeeds_read]
    split
    · rename_i r _ _
      rw [Prog.succeeds_bind]
      exact succeeds_durable done (@ih { j with archived := j.archived.set id (r.document id) })
    · exact ih

theorem Journal.Ordered.archiveTerminal (ordered : Ordered store j) :
    (store.archiveTerminal j.state).Succeeds good
      (fun value t => t.state = value ∧ t.directories = j.directories ∧
        value.runs = j.state.runs.filterKeys (· ∉ j.archivableIds j.state.runs)) j := by
  unfold RunStore.archiveTerminal
  rw [Prog.succeeds_bind, Prog.succeeds_read, Prog.succeeds_bind]
  refine succeeds_call done fun _ _ => ?_
  dsimp only
  split
  · rename_i empty
    refine ⟨rfl, rfl, (Dict.filterKeys_eq_self fun id _ => ?_).symm⟩
    rw [empty]
    exact List.not_mem_nil
  · rw [Prog.succeeds_bind]
    refine succeeds_call done fun _ _ => ?_
    have filed : ∀ entry ∈ j.archived.entries, isIdentifier entry.1 ∧ entry.2.Accepted entry.1 :=
      fun entry mem => ordered.filed entry.1 entry.2 (Dict.mem_entries.mp mem)
    have summary : (j.state.archive = none ↔ j.official.entries = []) ∧
        ∀ archive ∈ j.state.archive, archive.count = j.official.entries.length ∧
          archive.digest = store.digest (sorted j.official) := by
      rw [ordered.summary, Journal.summary]
      split
      · rename_i empty
        exact ⟨by simp [empty], by rintro _ ⟨⟩⟩
      · rename_i nonempty
        refine ⟨by simp [nonempty], ?_⟩
        rintro _ ⟨⟩
        exact ⟨rfl, rfl⟩
    have pending : ∀ entry ∈ j.archived.entries, ∀ r ∈ j.state.runs.get? entry.1,
        entry.1 ∈ j.archivableIds j.state.runs ∧ entry.2.requestDigest = r.requestDigest ∧
          entry.2.state = r.state := by
      intro entry mem r found
      have pending := ordered.pending entry.1 entry.2 r (Dict.mem_entries.mp mem) found
      rw [pending.document]
      exact ⟨RunStore.mem_archivableIds.mpr ⟨r, found, pending.terminal, pending.zero, pending.gone⟩,
        rfl, rfl⟩
    rw [Prog.succeeds_bind]
    refine Prog.succeeds_ensure filed ?_
    rw [Prog.succeeds_bind]
    refine Prog.succeeds_ensure summary ?_
    rw [Prog.succeeds_bind]
    refine Prog.succeeds_ensure pending ?_
    rw [Prog.succeeds_bind]
    refine Prog.succeeds_mono (succeeds_archiveFiles done) ?_
    rintro _ t ⟨state, directories⟩
    rw [Prog.succeeds_bind, Prog.succeeds_read, Prog.succeeds_bind]
    exact succeeds_durable done ⟨rfl, directories, rfl⟩

end Succeeds

namespace World

variable {store : RunStore} {events : List Event}

theorem run_ordered : (run store events).journal.Ordered store := by
  induction events using List.reverseRecOn with
  | nil => exact .fresh
  | append_singleton events event ih =>
    rw [run_snoc]
    exact Moves.ordered (apply_advances (run_held events) event).moves ih

theorem run_remembers {past later : List Event} :
    (run store past).journal.Remembers (run store (past ++ later)).journal := by
  induction later using List.reverseRecOn with
  | nil =>
    rw [List.append_nil]
    exact .refl
  | append_singleton later event ih =>
    rw [← List.append_assoc, run_snoc]
    exact ih.trans (Moves.remembers (apply_advances (run_held _) event).moves)

theorem admit_fresh {w : World} {id requestDigest : String} {diskBytes : Int}
    {answers rest : List Answer} {admitted : OwnedRun × Bool} {t : Journal}
    (done : (store.admitRun id requestDigest diskBytes).run answers w.journal =
      (.done admitted, rest, t)) : w.journal.recorded id = none := by
  have admits := Prog.done_wp RunStore.wp_admit done
  unfold recorded
  rw [Dict.get?_eq_none.mpr admits.fresh, Dict.get?_eq_none.mpr admits.unarchived]
  rfl

/-- Whatever the processes do, and wherever they crash: the next archival takes the journal, an
operation that was admitted is not admitted again, and it keeps its request and the state it ended
with.  While the archive can be counted, `_load` takes the journal and `status` knows the
operation. -/
theorem run_archived (store : RunStore) (past later : List Event) :
    let j := (run store past).journal
    let j' := (run store (past ++ later)).journal
    ((∀ archive ∈ j'.state.archive, archive.count ≤ maxArchived) →
      store.load j' = .ok j'.state ∧
      ∀ id ∈ j.state.runs.keys, ∃ r, store.status j' id = .ok r) ∧
    (∀ id r r', store.status j id = .ok r → r.state.Terminal → store.status j' id = .ok r' →
      r'.requestDigest = r.requestDigest ∧ r'.state = r.state) ∧
    (∀ id ∈ j.state.runs.keys, ∀ requestDigest diskBytes answers admitted,
      ((store.admitRun id requestDigest diskBytes).run answers j').1 ≠ .done admitted) ∧
    ∀ answers : List Answer, (∀ answer ∈ answers, answer.Done) →
      ∃ value rest t, (store.archiveTerminal j'.state).run answers j' = (.done value, rest, t) := by
  intro j j'
  have ordered : j'.Ordered store := run_ordered
  have known : ∀ id ∈ j.state.runs.keys, ∃ digest state, j'.recorded id = some (digest, state) := by
    intro id mem
    obtain ⟨r, found⟩ := Dict.mem_keys.mp mem
    have old : j.recorded id = some (r.requestDigest, r.state) := by
      unfold recorded
      rw [found]
    obtain ⟨state, now, -⟩ := run_remembers id _ _ old
    exact ⟨_, state, now⟩
  refine ⟨fun bounded => ?_, fun id r r' before terminal after => ?_, fun id mem => ?_, ?_⟩
  · have accepted : j'.Accepted store := ordered.counted bounded
    refine ⟨load_eq_ok.mpr ⟨accepted, rfl⟩, fun id mem => ?_⟩
    obtain ⟨digest, state, now⟩ := known id mem
    obtain ⟨r, found, -⟩ := ordered.status accepted now
    exact ⟨r, found⟩
  · obtain ⟨state, now, same⟩ := run_remembers id _ _ (recorded_of_status before)
    obtain ⟨digest, unchanged⟩ :=
      Prod.mk.inj (Option.some.inj ((recorded_of_status after).symm.trans now))
    exact ⟨digest, unchanged.trans (same terminal)⟩
  · intro requestDigest diskBytes answers admitted done
    obtain ⟨digest, state, now⟩ := known id mem
    cases now.symm.trans (admit_fresh (Prod.ext done rfl))
  · intro answers all
    obtain ⟨value, rest, t, done, -⟩ :=
      (Journal.Ordered.archiveTerminal (fun _ => id) ordered).run rfl all
    exact ⟨value, rest, t, done⟩

end World

end Reproof.Execution

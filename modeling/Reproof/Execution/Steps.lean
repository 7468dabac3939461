import Mathlib.Logic.Relation
import Reproof.Execution.Journal

/-! The durable steps that the programs of the journal take, with the guards they have passed. -/

namespace Reproof.Execution

open Contracts Library

section Rules

variable {α : Type} {R : Failure → Journal → Prop} {C : Journal → Prop} {j : Journal}

theorem wp_call {e : Failure} {Q : Nat → Journal → Prop} (hq : ∀ value, Q value j) (hr : R e j)
    (hc : C j) : (call e).wp Q R C j := by
  unfold call
  simp only [Prog.wp_bind, Prog.wp_answer]
  intro w
  split
  · exact hq _
  · exact hr
  · exact hc

theorem wp_durable {f : Journal → Journal} {e : Failure} {Q : Unit → Journal → Prop}
    (hq : Q () (f j)) (hr : R e j) (hc : C j ∧ C (f j)) : (durable f e).wp Q R C j := by
  unfold durable
  simp only [Prog.wp_bind, Prog.wp_answer]
  exact fun w => Prog.wp_commit hq hr hc

@[simp] theorem wp_check {Q : Unit → Journal → Prop} {p : Prop} [Decidable p] {message : String} :
    (check p message).wp Q R C j ↔ (p → Q () j) ∧ (¬ p → R (.denied message) j) := Prog.wp_ensure

@[simp] theorem wp_validate {Q : Unit → Journal → Prop} {p : Prop} [Decidable p] :
    (validate p).wp Q R C j ↔ (p → Q () j) ∧ (¬ p → R .contract j) := Prog.wp_ensure

theorem wp_reading {message : String} {f : Journal → Except Failure α} {Q : α → Journal → Prop}
    (hq : ∀ a, f j = .ok a → Q a j) (hr : ∀ e, R e j) (hc : C j) :
    (RunStore.reading message f).wp Q R C j := by
  unfold RunStore.reading
  rw [Prog.wp_bind]
  apply wp_call _ (hr _) hc
  intro _
  simp only [Prog.wp_bind, Prog.wp_read, Prog.wp_ofExcept]
  exact ⟨hq, fun e _ => hr e⟩

theorem wp_write {value : Document} {Q : Unit → Journal → Prop}
    (hq : Q () { j with state := value }) (hr : ∀ e, R e j) (hc : C j ∧ C { j with state := value }) :
    (RunStore.write value).wp Q R C j := wp_durable hq (hr _) hc

theorem load_eq_ok {store : RunStore} {value : Document} :
    store.load j = .ok value ↔ j.Accepted store ∧ j.state = value := by
  unfold RunStore.load
  split
  · rename_i accepted
    simp [accepted]
  · rename_i rejected
    simp [rejected]

end Rules

namespace Journal

variable {store : RunStore} {j t u : Journal} {operationId : String}

/-- A durable step that settles no run. -/
inductive Step (store : RunStore) : Journal → Journal → Prop
  | quarantine (j : Journal) :
      Step store j { j with state := { j.state with
        runs := j.state.runs.mapValues Record.quarantine } }
  | record {j : Journal} {id : String} {r : Record} (accepted : r.Accepted id)
      (admitted : r.state = .admitted) (reserved : 1 ≤ r.reservedBytes)
      (fresh : id ∉ j.state.runs.keys) (unarchived : id ∉ j.archived.keys)
      (room : j.state.runs.keys.length < maxRuns)
      (settled : ∀ id r, j.state.runs.get? id = some r → r.state.Terminal)
      (budget : j.state.runs.total (·.reservedBytes) + r.reservedBytes ≤ store.diskLimit) :
      Step store j { j with state := { j.state with runs := j.state.runs.set id r } }
  | directory {j : Journal} {id : String} {r : Record} {directory : RunDirectory}
      (found : j.state.runs.get? id = some r) (held : ¬ r.state.Terminal)
      (absent : j.directories.get? id = none) :
      Step store j { j with directories := j.directories.set id directory }
  | contents {j : Journal} {id : String} {directory directory' : RunDirectory}
      (present : j.directories.get? id = some directory) :
      Step store j { j with directories := j.directories.set id directory' }
  | remove (j : Journal) (id : String) :
      Step store j { j with directories := j.directories.erase id }
  | hold {j : Journal} {id : String} {r : Record} (found : j.state.runs.get? id = some r)
      (held : ¬ r.state.Terminal) :
      Step store j { j with state := { j.state with
        runs := j.state.runs.set id { r with state := .quarantined } } }
  | archive {j : Journal} {id : String} {r : Record} (found : j.state.runs.get? id = some r)
      (terminal : r.state.Terminal) (zero : r.reservedBytes = 0)
      (gone : j.directories.get? id = none) (fresh : j.archived.get? id = none) :
      Step store j { j with archived := j.archived.set id (r.document id) }
  | commit {j : Journal} {ids : List String} (nonempty : ids ≠ [])
      (filed : ∀ id ∈ ids, ∃ r, j.state.runs.get? id = some r ∧ r.state.Terminal ∧
        r.reservedBytes = 0 ∧ j.directories.get? id = none ∧
        j.archived.get? id = some (r.document id))
      (covers : ∀ id ∈ j.archived.keys, id ∈ j.state.runs.keys → id ∈ ids) :
      Step store j { j with state := { j.state with
        archive := some { count := (sorted j.archived).length
                          digest := store.digest (sorted j.archived) }
        runs := j.state.runs.filterKeys (· ∉ ids) } }
  | cancel (j : Journal) (id requestDigest : String) :
      Step store j { j with cancellations := j.cancellations.set id requestDigest }
  | scope {j : Journal} {scope : Scope} (valid : isDigest scope.scopeDigest) :
      Step store j { j with state := { j.state with scope := some scope } }

/-- Steps that settle no run. -/
abbrev Quiet (store : RunStore) : Journal → Journal → Prop := Relation.ReflTransGen (Step store)

/-- The step that settles a run: its directory is gone, and its reservation is released. -/
inductive Settle (operationId : String) : Journal → Journal → Prop
  | intro {j : Journal} {r : Record} {outcome : RunState}
      (found : j.state.runs.get? operationId = some r) (held : ¬ r.state.Terminal)
      (gone : j.directories.get? operationId = none) (terminal : outcome.Terminal) :
      Settle operationId j { j with state := { j.state with
        runs := j.state.runs.set operationId { r with state := outcome, reservedBytes := 0 } } }

/-- What one program does: it settles no run, or it removes the directory of one and settles it
last. -/
def Moves (store : RunStore) (j t : Journal) : Prop :=
  Quiet store j t ∨
    ∃ operationId u, Quiet store j u ∧ (j.directories.get? operationId).isSome ∧
      Settle operationId u t

end Journal

open Journal

namespace RunStore

variable {store : RunStore} {j : Journal}

/-- What the loop over the eligible records has filed. -/
structure Filed (ids : List String) (j t : Journal) : Prop where
  state : t.state = j.state
  directories : t.directories = j.directories
  keeps : ∀ id d, j.archived.get? id = some d → t.archived.get? id = some d
  files : ∀ id ∈ ids, ∀ r, j.state.runs.get? id = some r → j.archived.get? id = none →
    t.archived.get? id = some (r.document id)
  only : ∀ id d, t.archived.get? id = some d → j.archived.get? id = some d ∨ id ∈ ids

theorem wp_archiveFiles {ids : List String}
    (eligible : ∀ id ∈ ids, ∃ r, j.state.runs.get? id = some r ∧ r.state.Terminal ∧
      r.reservedBytes = 0 ∧ j.directories.get? id = none) :
    (archiveFiles j.state.runs ids).wp (fun _ t => Quiet store j t ∧ Filed ids j t)
      (fun _ t => Quiet store j t) (fun t => Quiet store j t) j := by
  induction ids generalizing j with
  | nil => exact ⟨.refl, rfl, rfl, fun _ _ => id, by simp, fun _ _ => .inl⟩
  | cons id ids ih =>
    obtain ⟨r, found, terminal, zero, gone⟩ := eligible id (by simp)
    have rest : ∀ id ∈ ids, _ := fun id mem => eligible id (List.mem_cons_of_mem _ mem)
    unfold archiveFiles
    simp only [Prog.wp_bind, Prog.wp_read]
    cases fresh : j.archived.get? id with
    | some d =>
      refine Prog.wp_mono (ih rest) ?_ (fun _ _ h => h) fun _ h => h
      rintro _ t ⟨quiet, filed⟩
      refine ⟨quiet, filed.state, filed.directories, filed.keeps, ?_, fun id d h => ?_⟩
      · intro id' mem r' found' absent
        rcases List.mem_cons.mp mem with rfl | mem
        · cases fresh.symm.trans absent
        · exact filed.files id' mem r' found' absent
      · exact (filed.only id d h).imp_right (List.mem_cons_of_mem _)
    | none =>
      simp only [found]
      have step : Step store j { j with archived := j.archived.set id (r.document id) } :=
        .archive found terminal zero gone fresh
      have before : Quiet store j { j with archived := j.archived.set id (r.document id) } := .single step
      rw [Prog.wp_bind]
      apply wp_durable _ .refl ⟨.refl, before⟩
      refine Prog.wp_mono (@ih { j with archived := j.archived.set id (r.document id) } rest) ?_
        (fun _ _ h => before.trans h) fun _ h => before.trans h
      rintro _ t ⟨quiet, filed⟩
      have set_get : ∀ k, (j.archived.set id (r.document id)).get? k =
          if k = id then some (r.document id) else j.archived.get? k := fun _ => Dict.get?_set
      refine ⟨before.trans quiet, filed.state, filed.directories, fun k d h => ?_, ?_, fun k d h => ?_⟩
      · refine filed.keeps k d ?_
        rw [set_get, if_neg, h]
        rintro rfl
        cases fresh.symm.trans h
      · intro k mem r' found' absent
        by_cases same : k = id
        · subst same
          cases found.symm.trans found'
          exact filed.keeps k _ (by rw [set_get, if_pos rfl])
        · refine filed.files k ((List.mem_cons.mp mem).resolve_left same) r' found' ?_
          rw [set_get, if_neg same]
          exact absent
      · rcases filed.only k d h with old | mem
        · rw [set_get] at old
          split at old
          · rename_i same
            exact .inr (same ▸ List.mem_cons_self)
          · exact .inl old
        · exact .inr (List.mem_cons_of_mem _ mem)

/-- What an archival leaves: it drops terminal records only. -/
structure Archives (store : RunStore) (j : Journal) (value : Document) (t : Journal) : Prop where
  quiet : Quiet store j t
  state : t.state = value
  kept : ∀ id r, value.runs.get? id = some r → j.state.runs.get? id = some r
  held : ∀ id r, j.state.runs.get? id = some r → ¬ r.state.Terminal → value.runs.get? id = some r
  known : ∀ id ∈ t.archived.keys, id ∈ j.archived.keys ∨ id ∈ j.state.runs.keys

theorem Archives.refl : Archives store j j.state j :=
  ⟨.refl, rfl, fun _ _ => id, fun _ _ found _ => found, fun _ => .inl⟩

theorem mem_archivableIds {runs : Dict String Record} {id : String} :
    id ∈ j.archivableIds runs ↔ ∃ r, runs.get? id = some r ∧ r.state.Terminal ∧
      r.reservedBytes = 0 ∧ j.directories.get? id = none := by
  simp [archivableIds, Dict.mem_entries]

theorem wp_archiveTerminal :
    (store.archiveTerminal j.state).wp (Archives store j) (fun _ t => Quiet store j t)
      (fun t => Quiet store j t) j := by
  unfold archiveTerminal
  rw [Prog.wp_bind, Prog.wp_read, Prog.wp_bind]
  refine wp_call (fun _ => ?_) .refl .refl
  dsimp only
  split
  · exact .refl
  · rename_i nonempty
    rw [Prog.wp_bind]
    refine wp_call (fun _ => ?_) .refl .refl
    rw [Prog.wp_bind, wp_check]
    refine ⟨fun accepted => ?_, fun _ => .refl⟩
    rw [Prog.wp_bind, wp_check]
    refine ⟨fun _ => ?_, fun _ => .refl⟩
    rw [Prog.wp_bind, wp_check]
    refine ⟨fun matched => ?_, fun _ => .refl⟩
    rw [Prog.wp_bind]
    have eligible := fun id => (@mem_archivableIds j j.state.runs id).mp
    refine Prog.wp_mono (wp_archiveFiles eligible) ?_ (fun _ _ h => h) fun _ h => h
    rintro _ t ⟨quiet, filed⟩
    rw [Prog.wp_bind, Prog.wp_read]
    have step : Step store t { t with state := { t.state with
        archive := some { count := (sorted t.archived).length
                          digest := store.digest (sorted t.archived) }
        runs := t.state.runs.filterKeys (· ∉ j.archivableIds j.state.runs) } } := by
      refine .commit nonempty ?_ ?_
      · intro id mem
        rw [filed.state]
        obtain ⟨r, found, terminal, zero, gone⟩ := eligible id mem
        refine ⟨r, found, terminal, zero, by rw [filed.directories, gone], ?_⟩
        cases fresh : j.archived.get? id with
        | none => exact filed.files id mem r found fresh
        | some d =>
          obtain ⟨-, digest, state⟩ := matched (id, d) (Dict.mem_entries.mpr fresh) r found
          obtain ⟨-, operation, -, reserved, -⟩ := accepted (id, d) (Dict.mem_entries.mpr fresh)
          rw [filed.keeps id d fresh]
          exact congrArg some (ArchiveDocument.ext operation digest state reserved)
      · intro id archived present
        rw [filed.state] at present
        obtain ⟨d, archived⟩ := Dict.mem_keys.mp archived
        obtain ⟨r, found⟩ := Dict.mem_keys.mp present
        rcases filed.only id d archived with old | mem
        · exact (matched (id, d) (Dict.mem_entries.mpr old) r found).1
        · exact mem
    rw [filed.state] at step
    rw [Prog.wp_bind]
    refine wp_write ?_ (fun _ => quiet) ⟨quiet, quiet.tail step⟩
    refine ⟨quiet.tail step, rfl, ?_, ?_, ?_⟩
    · intro id r found
      rw [Dict.get?_filterKeys] at found
      split at found
      · exact found
      · cases found
    · intro id r found held
      rw [Dict.get?_filterKeys, if_pos, found]
      intro mem
      obtain ⟨r', found', terminal, -⟩ := eligible id mem
      cases found.symm.trans found'
      exact held terminal
    · intro id mem
      obtain ⟨d, archived⟩ := Dict.mem_keys.mp mem
      rcases filed.only id d archived with old | mem
      · exact .inl (Dict.mem_keys.mpr ⟨d, old⟩)
      · obtain ⟨r, found, -⟩ := eligible id mem
        exact .inr (Dict.mem_keys.mpr ⟨r, found⟩)

/-- What is on disk once no record is admitted. -/
structure Quarantines (store : RunStore) (j : Journal) (value : Document) (t : Journal) : Prop where
  quiet : Quiet store j t
  state : t.state = value
  archived : t.archived = j.archived
  keys : value.runs.keys = j.state.runs.keys
  get : ∀ id, value.runs.get? id = (j.state.runs.get? id).map Record.quarantine

theorem wp_quarantineAdmitted :
    (quarantineAdmitted j.state).wp (Quarantines store j) (fun _ t => Quiet store j t)
      (fun t => Quiet store j t) j := by
  unfold quarantineAdmitted
  split
  · have step : Quiet store j _ := .single (.quarantine j)
    rw [Prog.wp_bind]
    exact wp_write ⟨step, rfl, rfl, Dict.keys_mapValues, fun _ => Dict.get?_mapValues⟩
      (fun _ => .refl) ⟨.refl, step⟩
  · rename_i settled
    refine ⟨.refl, rfl, rfl, rfl, fun id => ?_⟩
    cases found : j.state.runs.get? id with
    | none => rfl
    | some r =>
      have unchanged : r.quarantine = r := if_neg fun admitted =>
        settled ⟨r, Dict.mem_values.mpr ⟨id, found⟩, admitted⟩
      rw [Option.map_some, unchanged]

theorem wp_makeRoom :
    (store.makeRoom j.state).wp (Archives store j) (fun _ t => Quiet store j t)
      (fun t => Quiet store j t) j := by
  unfold makeRoom
  split
  · exact wp_archiveTerminal
  · exact Archives.refl

theorem wp_makeDirectory {operationId : String} {r : Record}
    (found : j.state.runs.get? operationId = some r) (held : ¬ r.state.Terminal) :
    (makeDirectory operationId).wp (fun _ t => Quiet store j t ∧ t.state = j.state)
      (fun _ t => Quiet store j t ∧ t.state = j.state) (fun t => Quiet store j t) j := by
  unfold makeDirectory
  rw [Prog.wp_bind, Prog.wp_read, Prog.wp_bind, Prog.wp_ensure]
  refine ⟨fun absent => ?_, fun _ => ⟨.refl, rfl⟩⟩
  rw [Prog.wp_bind]
  refine wp_call (fun identity => ?_) ⟨.refl, rfl⟩ .refl
  have step : Quiet store j { j with
      directories := j.directories.set operationId ⟨identity, true, []⟩ } :=
    .single (.directory found held absent)
  rw [Prog.wp_bind]
  refine wp_durable ?_ ⟨.refl, rfl⟩ ⟨.refl, step⟩
  rw [Prog.wp_bind]
  exact wp_call (fun _ => ⟨step, rfl⟩) ⟨step, rfl⟩ step

/-- What an admission leaves when it records a run. -/
structure Admits (store : RunStore) (operationId : String) (j : Journal) (run : OwnedRun)
    (t : Journal) : Prop where
  quiet : Quiet store j t
  operation : run.operationId = operationId
  unfinished : run.finished = false
  recorded : ∃ r, t.state.runs.get? operationId = some r ∧ ¬ r.state.Terminal
  settled : ∀ id r, j.state.runs.get? id = some r → r.state.Terminal
  fresh : operationId ∉ j.state.runs.keys
  unarchived : operationId ∉ j.archived.keys

theorem wp_admit {operationId requestDigest : String} {diskBytes : Int} :
    (store.admitRun operationId requestDigest diskBytes).wp
      (fun admitted t => Admits store operationId j admitted.1 t) (fun _ t => Quiet store j t)
      (fun t => Quiet store j t) j := by
  unfold admitRun
  rw [Prog.wp_bind, wp_validate]
  refine ⟨fun identifier => ?_, fun _ => .refl⟩
  rw [Prog.wp_bind, wp_validate]
  refine ⟨fun digest => ?_, fun _ => .refl⟩
  rw [Prog.wp_bind, wp_validate]
  refine ⟨fun bytes => ?_, fun _ => .refl⟩
  rw [Prog.wp_bind]
  refine wp_call (fun _ => ?_) .refl .refl
  rw [Prog.wp_bind]
  refine wp_reading (fun value loaded => ?_) (fun _ => .refl) .refl
  obtain ⟨-, rfl⟩ := load_eq_ok.mp loaded
  rw [Prog.wp_bind]
  refine Prog.wp_mono wp_quarantineAdmitted ?_ (fun _ _ h => h) fun _ h => h
  rintro value t quarantined
  rw [Prog.wp_bind]
  refine wp_reading (fun archived listed => ?_) (fun _ => quarantined.quiet) quarantined.quiet
  obtain rfl := Except.ok.inj listed
  rw [Prog.wp_bind, wp_check]
  refine ⟨fun fresh => ?_, fun _ => quarantined.quiet⟩
  rw [quarantined.keys, quarantined.archived] at fresh
  rw [Prog.wp_bind, ← quarantined.state]
  refine Prog.wp_mono wp_makeRoom ?_ (fun _ _ quiet => quarantined.quiet.trans quiet)
    fun _ quiet => quarantined.quiet.trans quiet
  rintro _ u ⟨archived, rfl, kept, live, known⟩
  have quiet : Quiet store j u := quarantined.quiet.trans archived
  rw [Prog.wp_bind, wp_check]
  refine ⟨fun room => ?_, fun _ => quiet⟩
  rw [Prog.wp_bind]
  refine wp_call (fun free => ?_) quiet quiet
  rw [Prog.wp_bind, wp_check]
  refine ⟨fun budget => ?_, fun _ => quiet⟩
  have get : ∀ id r, u.state.runs.get? id = some r → ∃ r', j.state.runs.get? id = some r' ∧
      r'.quarantine = r := fun id r found => by
    have found := kept id r found
    rw [quarantined.state, quarantined.get] at found
    exact Option.map_eq_some_iff.mp found
  have settled : ∀ id r, j.state.runs.get? id = some r → r.state.Terminal := by
    intro id r found
    by_contra held
    have quarantine := Record.quarantine_of_live held
    refine room.2 r.quarantine (Dict.mem_values.mpr ⟨id, live id _ ?_ ?_⟩) quarantine
    · rw [quarantined.state, quarantined.get, found]
      rfl
    · rw [quarantine]
      exact not_false
  have rest : ∀ id r, u.state.runs.get? id = some r → r.state.Terminal := by
    intro id r found
    obtain ⟨r', found', rfl⟩ := get id r found
    rw [Record.quarantine_of_terminal (settled id r' found')]
    exact settled id r' found'
  have new : operationId ∉ u.state.runs.keys := by
    intro mem
    obtain ⟨r, found⟩ := Dict.mem_keys.mp mem
    obtain ⟨r', found, -⟩ := get _ _ found
    exact fresh.1 (Dict.mem_keys.mpr ⟨r', found⟩)
  have unarchived : operationId ∉ u.archived.keys := by
    intro mem
    rcases known _ mem with mem | mem
    · rw [quarantined.archived] at mem
      exact fresh.2 mem
    · rw [quarantined.state, quarantined.keys] at mem
      exact fresh.1 mem
  have accepted : Record.Accepted operationId ⟨requestDigest, .admitted, diskBytes⟩ :=
    ⟨identifier, digest, ⟨Int.le_trans (by decide) bytes.1, bytes.2⟩, False.elim⟩
  have held : ¬ RunState.admitted.Terminal := not_false
  have step := quiet.tail (.record accepted rfl bytes.1 new unarchived room.1 rest budget.1)
  have recorded : (u.state.runs.set operationId ⟨requestDigest, .admitted, diskBytes⟩).get?
      operationId = some ⟨requestDigest, .admitted, diskBytes⟩ := by
    rw [Dict.get?_set, if_pos rfl]
  rw [Prog.wp_bind]
  refine wp_write ?_ (fun _ => quiet) ⟨quiet, step⟩
  rw [Prog.wp_rescue, Prog.wp_bind]
  refine Prog.wp_mono (wp_makeDirectory recorded held) ?_ ?_ fun _ quiet => step.trans quiet
  · rintro identity t ⟨made, state⟩
    refine ⟨step.trans made, rfl, rfl, ⟨⟨requestDigest, .admitted, diskBytes⟩, ?_, held⟩, settled, fresh.1, fresh.2⟩
    rw [state]
    exact recorded
  · rintro e t ⟨failed, state⟩
    refine ⟨step.trans failed, rfl, rfl, ⟨⟨requestDigest, .admitted, diskBytes⟩, ?_, held⟩, settled, fresh.1, fresh.2⟩
    rw [state]
    exact recorded

/-- The runs are as they were. -/
abbrev Leaves (store : RunStore) (j t : Journal) : Prop :=
  Quiet store j t ∧ t.state.runs = j.state.runs

theorem wp_cancel {operationId requestDigest : String} :
    (store.cancel operationId requestDigest).wp (fun _ t => Leaves store j t)
      (fun _ t => Leaves store j t) (fun t => Leaves store j t) j := by
  have same : Leaves store j j := ⟨.refl, rfl⟩
  unfold cancel
  rw [Prog.wp_bind, wp_validate]
  refine ⟨fun _ => ?_, fun _ => same⟩
  rw [Prog.wp_bind, wp_validate]
  refine ⟨fun _ => ?_, fun _ => same⟩
  rw [Prog.wp_bind]
  refine wp_reading (fun record _ => ?_) (fun _ => same) same
  rw [Prog.wp_bind, wp_check]
  refine ⟨fun _ => ?_, fun _ => same⟩
  split
  · exact same
  · rw [Prog.wp_bind, Prog.wp_read]
    split
    · exact wp_check.mpr ⟨fun _ => same, fun _ => same⟩
    · have step : Leaves store j _ := ⟨.single (.cancel j operationId requestDigest), rfl⟩
      exact wp_durable step same ⟨same, step⟩

theorem wp_bindScope {scope : Scope} :
    (store.bindScope scope).wp (fun _ t => Leaves store j t) (fun _ t => Leaves store j t)
      (fun t => Leaves store j t) j := by
  have same : Leaves store j j := ⟨.refl, rfl⟩
  unfold bindScope
  rw [Prog.wp_bind, wp_validate]
  refine ⟨fun valid => ?_, fun _ => same⟩
  rw [Prog.wp_bind]
  refine wp_reading (fun value loaded => ?_) (fun _ => same) same
  obtain ⟨-, rfl⟩ := load_eq_ok.mp loaded
  split
  · rw [Prog.wp_bind, wp_check]
    refine ⟨fun _ => ?_, fun _ => same⟩
    have step : Leaves store j _ := ⟨.single (.scope valid), rfl⟩
    exact wp_write step (fun _ => same) ⟨same, step⟩
  · exact wp_check.mpr ⟨fun _ => same, fun _ => same⟩

/-- What `reconcile` has read before it finishes a run: nothing is changed, and the run is not
settled. -/
def Recovers (operationId : String) (j : Journal) : Record ⊕ OwnedRun → Journal → Prop
  | .inl _, t => t = j
  | .inr run, t => t = j ∧ run.operationId = operationId ∧ run.finished = false ∧
      ∃ r, j.state.runs.get? operationId = some r ∧ ¬ r.state.Terminal

theorem archivedRecord_accepted {operationId : String} {d : ArchiveDocument}
    (read : j.archivedRecord operationId = .ok (some d)) : d.Accepted operationId := by
  unfold archivedRecord at read
  split at read
  · cases read
  · split at read
    · rename_i accepted
      cases read
      exact accepted
    · cases read

theorem status_live {operationId : String} {record : Record}
    (known : store.status j operationId = .ok record) (held : ¬ record.state.Terminal) :
    j.state.runs.get? operationId = some record := by
  simp only [status, bind_eq_ok] at known
  obtain ⟨-, -, value, loaded, archived, read, known⟩ := known
  obtain ⟨-, rfl⟩ := load_eq_ok.mp loaded
  cases found : j.state.runs.get? operationId with
  | none =>
    rw [found] at known
    cases archived with
    | none => cases known
    | some d =>
      cases known
      exact absurd (archivedRecord_accepted read).2.1 held
  | some r =>
    rw [found] at known
    cases archived with
    | none =>
      cases known
      rfl
    | some d =>
      simp only [bind_eq_ok, pure_eq_ok] at known
      obtain ⟨-, -, rfl⟩ := known
      rfl

theorem wp_reconcile {operationId requestDigest : String} {machine : Option String} :
    (store.reconcile operationId requestDigest machine).wp (Recovers operationId j)
      (fun _ t => t = j) (fun t => t = j) j := by
  unfold reconcile
  rw [Prog.wp_bind, wp_validate]
  refine ⟨fun _ => ?_, fun _ => rfl⟩
  rw [Prog.wp_bind, wp_validate]
  refine ⟨fun _ => ?_, fun _ => rfl⟩
  rw [Prog.wp_bind]
  refine wp_reading (fun record known => ?_) (fun _ => rfl) rfl
  rw [Prog.wp_bind, wp_check]
  refine ⟨fun _ => ?_, fun _ => rfl⟩
  split
  · exact rfl
  · rename_i held
    rw [Prog.wp_bind]
    refine wp_reading (fun value loaded => ?_) (fun _ => rfl) rfl
    split
    · exact rfl
    · rw [Prog.wp_bind, wp_check]
      refine ⟨fun _ => ?_, fun _ => rfl⟩
      rw [Prog.wp_bind, wp_check]
      refine ⟨fun _ => ?_, fun _ => rfl⟩
      rw [Prog.wp_bind]
      refine wp_reading (fun proof _ => ?_) (fun _ => rfl) rfl
      rw [Prog.wp_bind, wp_check]
      refine ⟨fun _ => ?_, fun _ => rfl⟩
      exact ⟨rfl, rfl, rfl, record, status_live known held, held⟩

end RunStore

namespace OwnedRun

variable {store : RunStore} {run : OwnedRun} {j : Journal}

theorem wp_cancelled {Q : Bool → Journal → Prop} {R : Failure → Journal → Prop}
    {C : Journal → Prop} (hq : ∀ found, Q found j) (hc : C j) : run.cancelled.wp Q R C j := by
  unfold cancelled
  rw [Prog.wp_rescue, Prog.wp_bind]
  refine wp_call (fun _ => ?_) (hq true) hc
  exact hq _

/-- The state is as it was in `j`, and no run has been settled. -/
abbrev Clears (store : RunStore) (j t : Journal) : Prop := Quiet store j t ∧ t.state = j.state

theorem wp_unlinkFiles {names : List String} :
    (run.unlinkFiles names).wp (fun _ t => Clears store j t) (fun _ t => Clears store j t)
      (fun t => Clears store j t) j := by
  induction names generalizing j with
  | nil => exact ⟨.refl, rfl⟩
  | cons name names ih =>
    unfold unlinkFiles
    rw [Prog.wp_bind]
    cases present : j.directories.get? run.operationId with
    | none =>
      refine wp_durable ?_ ⟨.refl, rfl⟩ ⟨⟨.refl, rfl⟩, ?_⟩
      · simp only [present]
        exact ih
      · simp only [present]
        exact ⟨.refl, rfl⟩
    | some directory =>
      have step : Quiet store j { j with
          directories := j.directories.set run.operationId
            { directory with files := directory.files.filter (·.name ≠ name) } } :=
        .single (.contents present)
      refine wp_durable ?_ ⟨.refl, rfl⟩ ⟨⟨.refl, rfl⟩, ?_⟩
      · simp only [present]
        exact Prog.wp_mono ih (fun _ _ h => ⟨step.trans h.1, h.2⟩) (fun _ _ h => ⟨step.trans h.1, h.2⟩)
          fun _ h => ⟨step.trans h.1, h.2⟩
      · simp only [present]
        exact ⟨step, rfl⟩

theorem wp_removeDirectory :
    run.removeDirectory.wp
      (fun _ t => Clears store j t ∧ (j.directories.get? run.operationId).isSome ∧
        t.directories.get? run.operationId = none)
      (fun _ t => Clears store j t) (fun t => Clears store j t) j := by
  unfold removeDirectory
  rw [Prog.wp_bind]
  refine wp_call (fun _ => ?_) ⟨.refl, rfl⟩ ⟨.refl, rfl⟩
  rw [Prog.wp_bind, Prog.wp_read]
  cases present : j.directories.get? run.operationId with
  | none => exact ⟨.refl, rfl⟩
  | some directory =>
    dsimp only
    rw [Prog.wp_bind, Prog.wp_ensure]
    refine ⟨fun _ => ?_, fun _ => ⟨.refl, rfl⟩⟩
    rw [Prog.wp_bind, Prog.wp_ensure]
    refine ⟨fun _ => ?_, fun _ => ⟨.refl, rfl⟩⟩
    rw [Prog.wp_bind]
    refine Prog.wp_mono (@wp_unlinkFiles store _ _ _) ?_ (fun _ _ h => h) fun _ h => h
    intro _ t unlinked
    rw [Prog.wp_bind]
    refine wp_call (fun _ => ?_) unlinked unlinked
    have removed : Clears store j { t with directories := t.directories.erase run.operationId } :=
      ⟨unlinked.1.tail (.remove t _), unlinked.2⟩
    rw [Prog.wp_bind]
    refine wp_durable ?_ unlinked ⟨unlinked, removed⟩
    rw [Prog.wp_bind]
    refine wp_call (fun _ => ?_) removed removed
    exact ⟨removed, rfl, by rw [Dict.get?_erase, if_pos rfl]⟩

theorem wp_cleanup {stopped : Bool} :
    (run.cleanup stopped).wp
      (fun cleaned t => Clears store j t ∧ (cleaned = true →
        (j.directories.get? run.operationId).isSome ∧ t.directories.get? run.operationId = none))
      (fun _ t => Clears store j t) (fun t => Clears store j t) j := by
  unfold cleanup
  split
  · rw [Prog.wp_rescue, Prog.wp_bind]
    exact Prog.wp_mono (@wp_removeDirectory store run j) (fun _ _ h => ⟨h.1, fun _ => h.2⟩)
      (fun _ _ h => ⟨h, fun h => by cases h⟩) fun _ h => h
  · exact ⟨⟨.refl, rfl⟩, fun h => by cases h⟩

/-- A run that has still to be finished is not settled. -/
def Live (run : OwnedRun) (j : Journal) : Prop :=
  run.finished = false →
    ∃ r, j.state.runs.get? run.operationId = some r ∧ ¬ r.state.Terminal

theorem wp_finish {outcome : RunState} {stopped : Bool} (live : run.Live j) :
    (run.finish store outcome stopped).wp (fun run' t => Moves store j t ∧ run'.finished)
      (fun _ t => Clears store j t) (fun t => Moves store j t) j := by
  unfold finish
  rw [Prog.wp_bind, wp_check]
  refine ⟨fun unfinished => ?_, fun _ => ⟨.refl, rfl⟩⟩
  obtain ⟨r, found, held⟩ := live unfinished
  rw [Prog.wp_bind, wp_check]
  refine ⟨fun terminal => ?_, fun _ => ⟨.refl, rfl⟩⟩
  rw [Prog.wp_bind]
  refine wp_reading (fun value loaded => ?_) (fun _ => ⟨.refl, rfl⟩) (.inl .refl)
  obtain ⟨-, rfl⟩ := load_eq_ok.mp loaded
  rw [found]
  dsimp only
  rw [Prog.wp_bind]
  refine Prog.wp_mono (@wp_cleanup store run j stopped) ?_ (fun _ _ h => h) fun _ h => .inl h.1
  rintro cleaned t ⟨⟨quiet, state⟩, gone⟩
  rw [← state] at found ⊢
  rw [Prog.wp_bind]
  unfold conclude
  split
  · rename_i removed
    obtain ⟨present, gone⟩ := gone removed
    rw [Prog.wp_bind]
    refine wp_cancelled (fun cancelled => ?_) (.inl quiet)
    have outcome_terminal : (if cancelled then RunState.cancelled else outcome).Terminal := by
      split
      · trivial
      · exact terminal
    have settle := Settle.intro found held gone outcome_terminal
    rw [Prog.wp_pure, Prog.wp_bind]
    exact wp_write ⟨.inr ⟨_, t, quiet, present, settle⟩, rfl⟩ (fun _ => ⟨quiet, state⟩)
      ⟨.inl quiet, .inr ⟨_, t, quiet, present, settle⟩⟩
  · have hold : Quiet store j _ := quiet.tail (.hold found held)
    rw [Prog.wp_pure, Prog.wp_bind]
    exact wp_write ⟨.inl hold, rfl⟩ (fun _ => ⟨quiet, state⟩) ⟨.inl quiet, .inl hold⟩

end OwnedRun

end Reproof.Execution

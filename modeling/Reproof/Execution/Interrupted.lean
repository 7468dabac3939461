import Reproof.Execution.Archive

/-! The recovery of a run whose machine is known to have stopped, when its cleanup may be cut short
anywhere and begun again. -/

namespace Reproof.Execution

open Contracts Library Journal

namespace Journal

variable {store : RunStore} {j t : Journal} {id requestDigest machine : String}

/-- The native owner's record that the machine of the run has stopped is with the overlay. -/
structure Proven (id requestDigest machine : String) (j : Journal) : Prop where
  scope : j.state.scope = some ⟨.vm, machine⟩
  overlay : ∃ directory, j.directories.get? id = some directory ∧ directory.isPrivate ∧
    ∀ file ∈ directory.files, file.name ∈ ownedOverlayFiles ∧ file.regular
  proof : RunStore.termination j id = some ⟨id, requestDigest, true⟩

/-- The machine of the run has stopped, and the run is still to be settled. -/
structure Stopped (id requestDigest machine : String) (j : Journal) : Prop
    extends Proven id requestDigest machine j where
  held : ∃ r, j.state.runs.get? id = some r ∧ ¬ r.state.Terminal ∧ r.requestDigest = requestDigest

/-- The run is settled. -/
def Concluded (id requestDigest : String) (j : Journal) : Prop :=
  ∃ state : RunState, j.recorded id = some (requestDigest, state) ∧ state.Terminal

/-- What a program leaves of a run that it does not clean up. -/
structure Spares (id : String) (j t : Journal) : Prop where
  scope : ∀ scope, j.state.scope = some scope → t.state.scope = some scope
  directory : ∀ directory, j.directories.get? id = some directory →
    t.directories.get? id = some directory

instance : Std.Refl (Spares id) := ⟨fun _ => ⟨fun _ h => h, fun _ h => h⟩⟩

instance : IsTrans Journal (Spares id) :=
  ⟨fun _ _ _ a b => ⟨fun _ h => b.scope _ (a.scope _ h), fun _ h => b.directory _ (a.directory _ h)⟩⟩

theorem termination_congr (same : t.directories.get? id = j.directories.get? id) :
    RunStore.termination t id = RunStore.termination j id := by
  unfold RunStore.termination
  rw [same]

theorem Concluded.remembered (concluded : j.Concluded id requestDigest)
    (remembers : j.Remembers t) : t.Concluded id requestDigest := by
  obtain ⟨state, known, terminal⟩ := concluded
  obtain ⟨state', known', same⟩ := remembers id _ _ known
  exact ⟨state', known', (same terminal).symm ▸ terminal⟩

theorem concluded_set {r : Record} {value : Document} {settled : RunState}
    (terminal : settled.Terminal) : Concluded id r.requestDigest { j with state := { value with
      runs := value.runs.set id ⟨r.requestDigest, settled, 0⟩ } } := by
  refine ⟨settled, ?_, terminal⟩
  unfold recorded
  rw [Dict.get?_set_self]

section Held

/-- A run that is not settled keeps its request while no step settles it. -/
theorem Step.held {r : Record} (step : Step store j t) (found : j.state.runs.get? id = some r)
    (live : ¬ r.state.Terminal) : ∃ r', t.state.runs.get? id = some r' ∧ ¬ r'.state.Terminal ∧
      r'.requestDigest = r.requestDigest := by
  cases step with
  | quarantine =>
    refine ⟨r.quarantine, ?_, ?_, Record.quarantine_requestDigest⟩
    · rw [Dict.get?_mapValues, found]
      rfl
    · rw [Record.quarantine_of_live live]
      exact not_false
  | record accepted admitted reserved fresh =>
    refine ⟨r, ?_, live, rfl⟩
    rw [Dict.get?_set, if_neg, found]
    rintro rfl
    exact fresh (Dict.mem_keys.mpr ⟨r, found⟩)
  | @hold held record found' =>
    by_cases same : id = held
    · subst same
      cases found.symm.trans found'
      exact ⟨_, Dict.get?_set_self, not_false, rfl⟩
    · exact ⟨r, by rw [Dict.get?_set, if_neg same, found], live, rfl⟩
  | commit nonempty filed =>
    refine ⟨r, ?_, live, rfl⟩
    rw [Dict.get?_filterKeys, if_pos, found]
    intro mem
    obtain ⟨r', found', terminal, -⟩ := filed id mem
    cases found.symm.trans found'
    exact live terminal
  | directory | contents | remove | archive | cancel | scope => exact ⟨r, found, live, rfl⟩

theorem Quiet.held {r : Record} (quiet : Quiet store j t) (found : j.state.runs.get? id = some r)
    (live : ¬ r.state.Terminal) : ∃ r', t.state.runs.get? id = some r' ∧ ¬ r'.state.Terminal ∧
      r'.requestDigest = r.requestDigest := by
  induction quiet with
  | refl => exact ⟨r, found, live, rfl⟩
  | tail _ step ih =>
    obtain ⟨r', found', live', same⟩ := ih
    obtain ⟨r'', found'', live'', same'⟩ := step.held found' live'
    exact ⟨r'', found'', live'', same'.trans same⟩

theorem Moves.held {r : Record} (moves : Moves store j t) (found : j.state.runs.get? id = some r)
    (live : ¬ r.state.Terminal) :
    (∃ r', t.state.runs.get? id = some r' ∧ ¬ r'.state.Terminal ∧
      r'.requestDigest = r.requestDigest) ∨ Concluded id r.requestDigest t := by
  rcases moves with quiet | ⟨settled, u, quiet, -, settle⟩
  · exact .inl (Quiet.held quiet found live)
  · obtain ⟨r', found', live', same⟩ := Quiet.held quiet found live
    cases settle with
    | @intro record outcome found'' held gone terminal =>
      by_cases here : id = settled
      · subst here
        cases found'.symm.trans found''
        refine .inr ⟨outcome, ?_, terminal⟩
        unfold recorded
        rw [Dict.get?_set_self, ← same]
      · exact .inl ⟨r', by rw [Dict.get?_set, if_neg here, found'], live', same⟩

/-- What does not clean the run up leaves it to be recovered, or settles it. -/
theorem Stopped.spared (stopped : j.Stopped id requestDigest machine) (moves : Moves store j t)
    (spares : Spares id j t) :
    t.Stopped id requestDigest machine ∨ t.Concluded id requestDigest := by
  obtain ⟨r, found, live, same⟩ := stopped.held
  obtain ⟨directory, present, fine⟩ := stopped.overlay
  have kept := spares.directory directory present
  refine (Moves.held moves found live).imp (fun held => ?_) fun concluded => same ▸ concluded
  obtain ⟨r', found', live', same'⟩ := held
  refine ⟨⟨spares.scope _ stopped.scope, ⟨directory, kept, fine⟩, ?_⟩,
    ⟨r', found', live', same'.trans same⟩⟩
  rw [termination_congr (kept.trans present.symm)]
  exact stopped.proof

end Held

end Journal

namespace RunStore

section Spares

variable {store : RunStore} {j : Journal} {id : String}

theorem spares_archived {archived : Dict String ArchiveDocument} : Spares id j { j with archived } :=
  ⟨fun _ h => h, fun _ h => h⟩

theorem spares_state {value : Document} (same : value.scope = j.state.scope) :
    Spares id j { j with state := value } := ⟨fun _ h => same.trans h, fun _ h => h⟩

theorem archiveFiles_spares {runs : Dict String Record} {ids : List String} :
    Prog.Guarantees (Spares id) (archiveFiles runs ids) := by
  intro j
  induction ids generalizing j with
  | nil => exact refl_of _ j
  | cons name ids ih =>
    unfold archiveFiles
    rw [Prog.wp_bind, Prog.wp_read]
    split
    · rw [Prog.wp_bind]
      refine wp_durable ?_ (refl_of _ j) ⟨refl_of _ j, spares_archived⟩
      exact Prog.wp_mono (ih _) (fun _ _ => trans_of _ spares_archived)
        (fun _ _ => trans_of _ spares_archived) fun _ => trans_of _ spares_archived
    · exact ih j

theorem wp_archiveTerminal_spares :
    (store.archiveTerminal j.state).wp (fun value t => t.state = value ∧ Spares id j t)
      (fun _ t => Spares id j t) (Spares id j) j := by
  have same : Spares id j j := refl_of _ j
  unfold archiveTerminal
  rw [Prog.wp_bind, Prog.wp_read, Prog.wp_bind]
  refine wp_call (fun _ => ?_) same same
  dsimp only
  split
  · exact ⟨rfl, same⟩
  · rw [Prog.wp_bind]
    refine wp_call (fun _ => ?_) same same
    rw [Prog.wp_bind, wp_check]
    refine ⟨fun _ => ?_, fun _ => same⟩
    rw [Prog.wp_bind, wp_check]
    refine ⟨fun _ => ?_, fun _ => same⟩
    rw [Prog.wp_bind, wp_check]
    refine ⟨fun _ => ?_, fun _ => same⟩
    rw [Prog.wp_bind]
    have eligible := fun id => (@mem_archivableIds j j.state.runs id).mp
    refine Prog.wp_mono (Prog.wp_and (@wp_archiveFiles store j _ eligible) (archiveFiles_spares j))
      ?_ (fun _ _ h => h.2) fun _ h => h.2
    rintro _ t ⟨⟨-, filed⟩, spares⟩
    rw [Prog.wp_bind, Prog.wp_read, Prog.wp_bind]
    have step : Spares id t { t with state := { j.state with
        archive := some { count := (sorted t.archived).length
                          digest := store.digest (sorted t.archived) }
        runs := j.state.runs.filterKeys (· ∉ j.archivableIds j.state.runs) } } :=
      spares_state (congrArg Document.scope filed.state).symm
    have spared := trans_of _ spares step
    exact wp_write ⟨rfl, spared⟩ (fun _ => spares) ⟨spares, spared⟩

theorem wp_makeRoom_spares :
    (store.makeRoom j.state).wp (fun value t => t.state = value ∧ Spares id j t)
      (fun _ t => Spares id j t) (Spares id j) j := by
  unfold makeRoom
  split
  · exact wp_archiveTerminal_spares
  · exact ⟨rfl, refl_of _ j⟩

theorem wp_quarantineAdmitted_spares :
    (quarantineAdmitted j.state).wp (fun value t => t.state = value ∧ Spares id j t)
      (fun _ t => Spares id j t) (Spares id j) j := by
  have same : Spares id j j := refl_of _ j
  unfold quarantineAdmitted
  split
  · rw [Prog.wp_bind]
    exact wp_write ⟨rfl, spares_state rfl⟩ (fun _ => same) ⟨same, spares_state rfl⟩
  · exact ⟨rfl, same⟩

theorem makeDirectory_spares {operationId : String} :
    Prog.Guarantees (Spares id) (makeDirectory operationId) := by
  intro j
  have same : Spares id j j := refl_of _ j
  unfold makeDirectory
  rw [Prog.wp_bind, Prog.wp_read, Prog.wp_bind, Prog.wp_ensure]
  refine ⟨fun absent => ?_, fun _ => same⟩
  rw [Prog.wp_bind]
  refine wp_call (fun identity => ?_) same same
  have made : Spares id j { j with
      directories := j.directories.set operationId ⟨identity, true, []⟩ } := by
    refine ⟨fun _ h => h, fun directory present => ?_⟩
    rw [Dict.get?_set, if_neg, present]
    rintro rfl
    cases absent.symm.trans present
  rw [Prog.wp_bind]
  refine wp_durable ?_ same ⟨same, made⟩
  rw [Prog.wp_bind]
  exact wp_call (fun _ => made) made made

theorem admitRun_spares {operationId requestDigest : String} {diskBytes : Int} :
    Prog.Guarantees (Spares id) (store.admitRun operationId requestDigest diskBytes) := by
  intro j
  have same : Spares id j j := refl_of _ j
  unfold admitRun
  rw [Prog.wp_bind, wp_validate]
  refine ⟨fun _ => ?_, fun _ => same⟩
  rw [Prog.wp_bind, wp_validate]
  refine ⟨fun _ => ?_, fun _ => same⟩
  rw [Prog.wp_bind, wp_validate]
  refine ⟨fun _ => ?_, fun _ => same⟩
  rw [Prog.wp_bind]
  refine wp_call (fun _ => ?_) same same
  rw [Prog.wp_bind]
  refine wp_reading (fun value loaded => ?_) (fun _ => same) same
  obtain ⟨-, rfl⟩ := load_eq_ok.mp loaded
  rw [Prog.wp_bind]
  refine Prog.wp_mono wp_quarantineAdmitted_spares ?_ (fun _ _ h => h) fun _ h => h
  rintro _ t ⟨rfl, quarantined⟩
  rw [Prog.wp_bind]
  refine wp_reading (fun _ _ => ?_) (fun _ => quarantined) quarantined
  rw [Prog.wp_bind, wp_check]
  refine ⟨fun _ => ?_, fun _ => quarantined⟩
  rw [Prog.wp_bind]
  refine Prog.wp_mono wp_makeRoom_spares ?_ (fun _ _ => trans_of _ quarantined)
    fun _ => trans_of _ quarantined
  rintro _ u ⟨rfl, archived⟩
  have roomy := trans_of _ quarantined archived
  rw [Prog.wp_bind, wp_check]
  refine ⟨fun _ => ?_, fun _ => roomy⟩
  rw [Prog.wp_bind]
  refine wp_call (fun _ => ?_) roomy roomy
  rw [Prog.wp_bind, wp_check]
  refine ⟨fun _ => ?_, fun _ => roomy⟩
  have recorded := trans_of _ roomy (spares_state rfl : Spares id u { u with state := { u.state with
    runs := u.state.runs.set operationId ⟨requestDigest, .admitted, diskBytes⟩ } })
  rw [Prog.wp_bind]
  refine wp_write ?_ (fun _ => roomy) ⟨roomy, recorded⟩
  rw [Prog.wp_rescue, Prog.wp_bind]
  exact Prog.wp_mono (makeDirectory_spares _) (fun _ _ => trans_of _ recorded)
    (fun _ _ => trans_of _ recorded) fun _ => trans_of _ recorded

theorem cancel_spares {operationId requestDigest : String} :
    Prog.Guarantees (Spares id) (store.cancel operationId requestDigest) := by
  intro j
  have same : Spares id j j := refl_of _ j
  unfold cancel
  rw [Prog.wp_bind, wp_validate]
  refine ⟨fun _ => ?_, fun _ => same⟩
  rw [Prog.wp_bind, wp_validate]
  refine ⟨fun _ => ?_, fun _ => same⟩
  rw [Prog.wp_bind]
  refine wp_reading (fun record _ => ?_) (fun _ => same) same
  rw [Prog.wp_bind, wp_check]
  refine ⟨fun _ => ?_, fun _ => same⟩
  split
  · exact same
  · rw [Prog.wp_bind, Prog.wp_read]
    split
    · exact wp_check.mpr ⟨fun _ => same, fun _ => same⟩
    · have step : Spares id j { j with
          cancellations := j.cancellations.set operationId requestDigest } :=
        ⟨fun _ h => h, fun _ h => h⟩
      exact wp_durable step same ⟨same, step⟩

theorem bindScope_spares {scope : Scope} :
    Prog.Guarantees (Spares id) (store.bindScope scope) := by
  intro j
  have same : Spares id j j := refl_of _ j
  unfold bindScope
  rw [Prog.wp_bind, wp_validate]
  refine ⟨fun _ => ?_, fun _ => same⟩
  rw [Prog.wp_bind]
  refine wp_reading (fun value loaded => ?_) (fun _ => same) same
  obtain ⟨-, rfl⟩ := load_eq_ok.mp loaded
  split
  · rename_i unscoped
    rw [Prog.wp_bind, wp_check]
    refine ⟨fun _ => ?_, fun _ => same⟩
    have step : Spares id j { j with state := { j.state with scope := some scope } } :=
      ⟨fun _ found => (by cases unscoped.symm.trans found), fun _ h => h⟩
    exact wp_write step (fun _ => same) ⟨same, step⟩
  · exact wp_check.mpr ⟨fun _ => same, fun _ => same⟩

end Spares

end RunStore

namespace OwnedRun

section Spares

variable {store : RunStore} {run : OwnedRun} {j : Journal} {id : String}

theorem spares_directory {directory : RunDirectory} (other : run.operationId ≠ id) :
    Spares id j { j with directories := j.directories.set run.operationId directory } := by
  refine ⟨fun _ h => h, fun _ present => ?_⟩
  rw [Dict.get?_set, if_neg other.symm, present]

theorem spares_erase (other : run.operationId ≠ id) :
    Spares id j { j with directories := j.directories.erase run.operationId } := by
  refine ⟨fun _ h => h, fun _ present => ?_⟩
  rw [Dict.get?_erase, if_neg other.symm, present]

theorem unlinkFiles_spares {names : List String} (other : run.operationId ≠ id) :
    Prog.Guarantees (Spares id) (run.unlinkFiles names) := by
  intro j
  induction names generalizing j with
  | nil => exact refl_of _ j
  | cons name names ih =>
    unfold unlinkFiles
    refine Prog.Guarantees.bind (fun j => ?_) (fun _ => ih) j
    refine wp_durable ?_ (refl_of _ j) ⟨refl_of _ j, ?_⟩
    all_goals
      split
      · exact refl_of _ j
      · exact spares_directory other

theorem removeDirectory_spares (other : run.operationId ≠ id) :
    Prog.Guarantees (Spares id) run.removeDirectory := by
  intro j
  have same : Spares id j j := refl_of _ j
  unfold removeDirectory
  rw [Prog.wp_bind]
  refine wp_call (fun _ => ?_) same same
  rw [Prog.wp_bind, Prog.wp_read]
  split
  · exact same
  · rw [Prog.wp_bind, Prog.wp_ensure]
    refine ⟨fun _ => ?_, fun _ => same⟩
    rw [Prog.wp_bind, Prog.wp_ensure]
    refine ⟨fun _ => ?_, fun _ => same⟩
    rw [Prog.wp_bind]
    refine Prog.wp_mono (unlinkFiles_spares other j) ?_ (fun _ _ h => h) fun _ h => h
    intro _ t unlinked
    rw [Prog.wp_bind]
    refine wp_call (fun _ => ?_) unlinked unlinked
    have removed := trans_of _ unlinked (spares_erase other : Spares id t _)
    rw [Prog.wp_bind]
    refine wp_durable ?_ unlinked ⟨unlinked, removed⟩
    rw [Prog.wp_bind]
    exact wp_call (fun _ => removed) removed removed

theorem cleanup_spares {stopped : Bool} (idle : stopped = true → run.operationId ≠ id) :
    Prog.Guarantees (Spares id) (run.cleanup stopped) := by
  unfold cleanup
  split
  · rename_i stopped
    exact .rescue (.bind (removeDirectory_spares (idle stopped)) fun _ => .pure) fun _ => .pure
  · exact .pure

/-- Finishing a run leaves the directories of the others, and its own unless its machine stopped. -/
theorem finish_spares {outcome : RunState} {stopped : Bool}
    (idle : stopped = true → run.operationId ≠ id) :
    Prog.Guarantees (Spares id) (run.finish store outcome stopped) := by
  intro j
  have same : Spares id j j := refl_of _ j
  unfold finish
  rw [Prog.wp_bind, wp_check]
  refine ⟨fun _ => ?_, fun _ => same⟩
  rw [Prog.wp_bind, wp_check]
  refine ⟨fun _ => ?_, fun _ => same⟩
  rw [Prog.wp_bind]
  refine wp_reading (fun value loaded => ?_) (fun _ => same) same
  obtain ⟨-, rfl⟩ := load_eq_ok.mp loaded
  split
  · exact same
  · rw [Prog.wp_bind]
    refine Prog.wp_mono (Prog.wp_and (cleanup_spares idle j) (@wp_cleanup store run j stopped)) ?_
      (fun _ _ h => h.1) fun _ h => h.1
    rintro cleaned t ⟨spares, ⟨-, state⟩, -⟩
    have written : ∀ runs, Spares id j { t with state := { j.state with runs } } := fun runs =>
      have step : Spares id t { t with state := { j.state with runs } } :=
        RunStore.spares_state (congrArg Document.scope state).symm
      trans_of _ spares step
    rw [Prog.wp_bind]
    unfold conclude
    split
    · rw [Prog.wp_bind]
      refine wp_cancelled (fun _ => ?_) spares
      rw [Prog.wp_pure, Prog.wp_bind]
      exact wp_write (written _) (fun _ => spares) ⟨spares, written _⟩
    · rw [Prog.wp_pure, Prog.wp_bind]
      exact wp_write (written _) (fun _ => spares) ⟨spares, written _⟩

end Spares

end OwnedRun

/-- What became of a question: the answers are used in order, and then the usual one. -/
def fateAt (answers : List Answer) (k : Nat) : Fate := ((answers.drop k).headD default).fate

/-- The write took effect. -/
def Taken (fate : Fate) : Prop := fate = .done ∨ fate = .crashed true

instance : DecidablePred Taken := fun _ => inferInstanceAs (Decidable (_ ∨ _))

theorem fateAt_tail {answers : List Answer} {k : Nat} :
    fateAt answers.tail k = fateAt answers (k + 1) := by
  unfold fateAt
  rw [List.drop_tail]

theorem fateAt_drop {answers : List Answer} {n k : Nat} :
    fateAt (answers.drop n) k = fateAt answers (n + k) := by
  unfold fateAt
  rw [List.drop_drop]

namespace OwnedRun

/-- The files that are unlinked before an answer cuts that short, and the answers left when none
does. -/
def unlinked : List String → List Answer → List String × Option (List Answer)
  | [], answers => ([], some answers)
  | name :: names, answers =>
    match fateAt answers 0 with
    | .done => (name :: (unlinked names answers.tail).1, (unlinked names answers.tail).2)
    | .failed _ => ([], none)
    | .crashed applied => (if applied then [name] else [], none)

/-- Once the files are unlinked: the directory is removed, and `state.json` is replaced. -/
def Settles (answers : List Answer) : Prop :=
  (∀ k < 3, fateAt answers k = .done) ∧ (∀ applied, fateAt answers 3 ≠ .crashed applied) ∧
  Taken (fateAt answers 4)

/-- The call is cut short after it unlinks the stop record and before it replaces `state.json`. -/
def Severs (store : RunStore) (run : OwnedRun) (outcome : RunState) (j : Journal)
    (answers : List Answer) : Prop :=
  run.finished = false ∧ outcome.Terminal ∧ j.Accepted store ∧
  ∃ directory, j.directories.get? run.operationId = some directory ∧
    (run.directoryIdentity = none ∨ run.directoryIdentity = some directory.identity) ∧
    fateAt answers 0 = .done ∧ fateAt answers 1 = .done ∧
    "termination.json" ∈ (unlinked (directory.files.map (·.name)) (answers.drop 2)).1 ∧
    ∀ rest ∈ (unlinked (directory.files.map (·.name)) (answers.drop 2)).2, ¬ Settles rest

section Severs

variable {store : RunStore} {run : OwnedRun} {outcome : RunState} {j : Journal}
  {answers : List Answer}

theorem run_call {e : Failure} : (call e).run answers j =
    match fateAt answers 0 with
    | .done => (.done (answers.headD default).value, answers.tail, j)
    | .failed _ => (.raised e, answers.tail, j)
    | .crashed _ => (.crashed, answers.tail, j) := by
  unfold call
  rw [Prog.run_bind, Prog.run_answer_headD]
  change _ = match (answers.headD default).fate with | .done => _ | .failed _ => _ | .crashed _ => _
  dsimp only
  cases (answers.headD default).fate <;> rfl

theorem run_durable {f : Journal → Journal} {e : Failure} : (durable f e).run answers j =
    match fateAt answers 0 with
    | .done => (.done (), answers.tail, f j)
    | .failed _ => (.raised e, answers.tail, j)
    | .crashed applied => (.crashed, answers.tail, if applied then f j else j) := by
  unfold durable
  rw [Prog.run_bind, Prog.run_answer_headD]
  change _ = match (answers.headD default).fate with
    | .done => _
    | .failed _ => _
    | .crashed _ => _
  dsimp only
  cases (answers.headD default).fate with
  | done => rfl
  | failed _ => rfl
  | crashed applied => cases applied <;> rfl

theorem run_reading {α : Type} {message : String} {f : Journal → Except Failure α} {a : α}
    (first : fateAt answers 0 = .done) (ok : f j = .ok a) :
    (RunStore.reading message f).run answers j = (.done a, answers.tail, j) := by
  unfold RunStore.reading
  rw [Prog.run_bind, run_call, first]
  dsimp only
  rw [Prog.run_bind, Prog.run_read]
  dsimp only
  rw [ok]
  rfl

/-- What unlinking files leaves. -/
structure Unlinks (id : String) (directory : RunDirectory) (removed : List String)
    (left : Option (List Answer)) (j : Journal) (result : Outcome Failure Unit × List Answer × Journal) :
    Prop where
  state : result.2.2.state = j.state
  files : result.2.2.directories.get? id =
    some { directory with files := directory.files.filter (·.name ∉ removed) }
  through : ∀ rest, left = some rest → result.1 = .done () ∧ result.2.1 = rest
  cut : left = none → result.1 ≠ .done ()

theorem run_unlinkFiles {names : List String} {directory : RunDirectory}
    (present : j.directories.get? run.operationId = some directory) :
    Unlinks run.operationId directory (unlinked names answers).1 (unlinked names answers).2 j
      ((run.unlinkFiles names).run answers j) := by
  induction names generalizing answers j directory with
  | nil =>
    refine ⟨rfl, ?_, fun rest same => ⟨rfl, Option.some.inj same⟩, by rintro ⟨⟩⟩
    change j.directories.get? run.operationId = _
    simp [present, unlinked]
  | cons name names ih =>
    unfold unlinkFiles unlinked
    rw [Prog.run_bind, run_durable]
    simp only [present]
    cases fateAt answers 0 with
    | done =>
      have next := @ih
        { j with
          directories := j.directories.set run.operationId
            { directory with files := directory.files.filter (·.name ≠ name) } }
        answers.tail _ Dict.get?_set_self
      refine ⟨next.state, ?_, next.through, next.cut⟩
      refine next.files.trans (congrArg (fun files => some { directory with files }) ?_)
      rw [List.filter_filter]
      exact List.filter_congr fun file _ => by
        rw [← Bool.decide_and]
        exact decide_eq_decide.mpr (by rw [List.mem_cons, not_or, and_comm])
    | failed _ =>
      refine ⟨rfl, ?_, by rintro _ ⟨⟩, by rintro _ ⟨⟩⟩
      simp [present]
    | crashed applied =>
      cases applied with
      | false =>
        refine ⟨rfl, ?_, by rintro _ ⟨⟩, by rintro _ ⟨⟩⟩
        simp [present]
      | true =>
        refine ⟨rfl, ?_, by rintro _ ⟨⟩, by rintro _ ⟨⟩⟩
        refine Dict.get?_set_self.trans ?_
        simp

theorem unlinked_all {names : List String} {rest : List Answer}
    (through : (unlinked names answers).2 = some rest) : (unlinked names answers).1 = names := by
  induction names generalizing answers with
  | nil => rfl
  | cons name names ih =>
    unfold unlinked at through ⊢
    cases fate : fateAt answers 0 with
    | done =>
      simp only [fate] at through ⊢
      rw [ih through]
    | failed _ => simp [fate] at through
    | crashed _ => simp [fate] at through

theorem termination_of_files {id requestDigest : String} {directory : RunDirectory}
    (present : j.directories.get? id = some directory)
    (proof : RunStore.termination j id = some ⟨id, requestDigest, true⟩) :
    "termination.json" ∈ directory.files.map (·.name) := by
  unfold RunStore.termination at proof
  rw [present, Option.bind_eq_bind, Option.bind_some] at proof
  obtain ⟨file, found, -⟩ := Option.bind_eq_some_iff.mp proof
  have named := List.find?_some found
  exact List.mem_map.mpr ⟨file, List.mem_of_find?_eq_some found, (of_decide_eq_true named).1⟩

/-- The stop record stays while it is not among the files taken. -/
theorem Unlinks.proven {id requestDigest machine : String} {directory : RunDirectory}
    {removed : List String} {left : Option (List Answer)}
    {result : Outcome Failure Unit × List Answer × Journal}
    (unlinks : Unlinks id directory removed left j result)
    (proven : j.Proven id requestDigest machine) (present : j.directories.get? id = some directory)
    (kept : "termination.json" ∉ removed) : result.2.2.Proven id requestDigest machine := by
  obtain ⟨directory', present', isPrivate, fine⟩ := proven.overlay
  cases present.symm.trans present'
  refine ⟨?_, ⟨_, unlinks.files, isPrivate, fun file mem => fine file (List.mem_filter.mp mem).1⟩, ?_⟩
  · rw [unlinks.state]
    exact proven.scope
  · rw [← proven.proof]
    unfold RunStore.termination
    rw [unlinks.files, present]
    simp only [Option.bind_eq_bind, Option.bind_some, List.find?_filter]
    refine congrArg (Option.bind · _) (congrArg (directory.files.find? ·) ?_)
    funext file
    refine decide_eq_decide.mpr ⟨fun h => of_decide_eq_true h.2, fun h => ⟨?_, decide_eq_true h⟩⟩
    rw [h.1]
    exact decide_eq_true kept

/-- A removal that does not take the stop record is cut short. -/
theorem run_removeDirectory_cut {requestDigest machine : String}
    (proven : j.Proven run.operationId requestDigest machine)
    (kept : ∀ directory, j.directories.get? run.operationId = some directory →
      (run.directoryIdentity = none ∨ run.directoryIdentity = some directory.identity) →
      fateAt answers 0 = .done →
      "termination.json" ∉ (unlinked (directory.files.map (·.name)) answers.tail).1) :
    let result := run.removeDirectory.run answers j
    result.1 ≠ .done () ∧ result.2.2.state = j.state ∧
      result.2.2.Proven run.operationId requestDigest machine := by
  intro result
  obtain ⟨directory, present, isPrivate, fine⟩ := proven.overlay
  unfold result removeDirectory
  rw [Prog.run_bind, run_call]
  cases first : fateAt answers 0 with
  | failed _ => exact ⟨nofun, rfl, proven⟩
  | crashed _ => exact ⟨nofun, rfl, proven⟩
  | done =>
    dsimp only
    rw [Prog.run_bind, Prog.run_read]
    dsimp only
    rw [present]
    dsimp only
    rw [Prog.run_bind, Prog.run_ensure]
    by_cases same : run.directoryIdentity = none ∨ run.directoryIdentity = some directory.identity
    · rw [if_pos ⟨isPrivate, same⟩]
      dsimp only
      rw [Prog.run_bind, Prog.run_ensure, if_pos fine]
      dsimp only
      have unlinks := @run_unlinkFiles run j answers.tail (directory.files.map (·.name)) _ present
      have untaken := kept directory present same first
      cases left : (unlinked (directory.files.map (·.name)) answers.tail).2 with
      | some rest =>
        rw [unlinked_all left] at untaken
        exact absurd (termination_of_files present proven.proof) untaken
      | none =>
        obtain ⟨after, cut⟩ := Prog.run_bind_cut fun _ => unlinks.cut left
        rw [after]
        exact ⟨cut (), unlinks.state, unlinks.proven proven present untaken⟩
    · rw [if_neg fun h => same h.2]
      exact ⟨nofun, rfl, proven⟩

/-- A removal that nothing cuts short takes the directory. -/
theorem run_removeDirectory_through {requestDigest machine : String} {directory : RunDirectory}
    {rest : List Answer} (proven : j.Proven run.operationId requestDigest machine)
    (present : j.directories.get? run.operationId = some directory)
    (same : run.directoryIdentity = none ∨ run.directoryIdentity = some directory.identity)
    (first : fateAt answers 0 = .done)
    (left : (unlinked (directory.files.map (·.name)) answers.tail).2 = some rest)
    (goes : ∀ k < 3, fateAt rest k = .done) :
    ∃ t, run.removeDirectory.run answers j = (.done (), rest.drop 3, t) ∧ t.state = j.state := by
  obtain ⟨directory', present', isPrivate, fine⟩ := proven.overlay
  cases present.symm.trans present'
  have unlinks := @run_unlinkFiles run j answers.tail (directory.files.map (·.name)) _ present
  obtain ⟨outcome, later⟩ := unlinks.through rest left
  have state := unlinks.state
  have one : fateAt rest.tail 0 = .done := fateAt_tail.trans (goes 1 (by decide))
  have two : fateAt rest.tail.tail 0 = .done :=
    fateAt_tail.trans (fateAt_tail.trans (goes 2 (by decide)))
  unfold removeDirectory
  rw [Prog.run_bind, run_call, first]
  dsimp only
  rw [Prog.run_bind, Prog.run_read]
  dsimp only
  rw [present]
  dsimp only
  rw [Prog.run_bind, Prog.run_ensure, if_pos ⟨isPrivate, same⟩]
  dsimp only
  rw [Prog.run_bind, Prog.run_ensure, if_pos fine]
  dsimp only
  rw [Prog.run_bind]
  revert outcome later state
  generalize (run.unlinkFiles (directory.files.map (·.name))).run answers.tail j = result
  obtain ⟨_, _, t⟩ := result
  rintro rfl rfl state
  dsimp only
  rw [Prog.run_bind, run_call, goes 0 (by decide)]
  dsimp only
  rw [Prog.run_bind, run_durable, one]
  dsimp only
  rw [Prog.run_bind, run_call, two]
  dsimp only
  refine ⟨_, Prod.ext rfl (Prod.ext ?_ rfl), state⟩
  simp only [Prog.run_pure, ← List.drop_one, List.drop_drop]

/-- A call of `finish` reads the journal first. -/
def Begins (store : RunStore) (run : OwnedRun) (outcome : RunState) (j : Journal)
    (answers : List Answer) : Prop :=
  run.finished = false ∧ outcome.Terminal ∧ j.Accepted store ∧ fateAt answers 0 = .done

/-- A reading that is refused, or that is not answered, ends the call. -/
theorem run_reading_cut {α : Type} {message : String} {f : Journal → Except Failure α}
    (refused : ∀ a, fateAt answers 0 = .done → f j ≠ .ok a) :
    ((RunStore.reading message f).run answers j).2.2 = j ∧
      ∀ a, ((RunStore.reading message f).run answers j).1 ≠ .done a := by
  unfold RunStore.reading
  rw [Prog.run_bind, run_call]
  cases first : fateAt answers 0 with
  | done =>
    dsimp only
    rw [Prog.run_bind, Prog.run_read]
    dsimp only
    cases read : f j with
    | ok a => exact absurd read (refused a first)
    | error e => exact ⟨rfl, fun _ => nofun⟩
  | failed _ => exact ⟨rfl, fun _ => nofun⟩
  | crashed _ => exact ⟨rfl, fun _ => nofun⟩

theorem run_finish_idle {stopped : Bool} (idle : ¬ Begins store run outcome j answers) :
    ((run.finish store outcome stopped).run answers j).2.2 = j := by
  unfold finish check
  rw [Prog.run_bind, Prog.run_ensure]
  by_cases unfinished : run.finished = false
  · rw [if_pos unfinished]
    dsimp only
    rw [Prog.run_bind, Prog.run_ensure]
    by_cases terminal : outcome.Terminal
    · rw [if_pos terminal]
      dsimp only
      have refused : ∀ value, fateAt answers 0 = .done → store.load j ≠ .ok value :=
        fun _ first loaded => idle ⟨unfinished, terminal, (load_eq_ok.mp loaded).1, first⟩
      obtain ⟨same, cut⟩ := run_reading_cut refused
      exact (Prog.run_bind_cut cut).1.trans same
    · rw [if_neg terminal]
  · rw [if_neg unfinished]

/-- What `finish` does once it has the record of its run. -/
theorem run_finish_begins {stopped : Bool} {r : Record}
    (begins : Begins store run outcome j answers)
    (found : j.state.runs.get? run.operationId = some r) :
    (run.finish store outcome stopped).run answers j =
      (do
        let cleaned ← run.cleanup stopped
        let record ← run.conclude outcome cleaned r
        RunStore.write { j.state with runs := j.state.runs.set run.operationId record }
        return { run with finished := true } : Control OwnedRun).run answers.tail j := by
  obtain ⟨unfinished, terminal, accepted, first⟩ := begins
  unfold finish check
  rw [Prog.run_bind, Prog.run_ensure, if_pos unfinished]
  dsimp only
  rw [Prog.run_bind, Prog.run_ensure, if_pos terminal]
  dsimp only
  rw [Prog.run_bind, run_reading first (load_eq_ok.mpr ⟨accepted, rfl⟩)]
  dsimp only
  rw [found]

theorem run_cleanup : (run.cleanup true).run answers j =
    match run.removeDirectory.run answers j with
    | (.done _, rest, t) => (.done true, rest, t)
    | (.raised _, rest, t) => (.done false, rest, t)
    | (.crashed, rest, t) => (.crashed, rest, t) := by
  unfold cleanup
  rw [if_pos rfl, Prog.run_rescue, Prog.run_bind]
  generalize run.removeDirectory.run answers j = result
  obtain ⟨outcome, rest, t⟩ := result
  cases outcome <;> rfl

theorem tail_tail : answers.tail.tail = answers.drop 2 := by
  simp only [← List.drop_one, List.drop_drop]

/-- A call that does not take the stop record leaves it. -/
theorem finish_cut {requestDigest machine : String} {r : Record}
    (found : j.state.runs.get? run.operationId = some r)
    (proven : j.Proven run.operationId requestDigest machine)
    (kept : ∀ directory, j.directories.get? run.operationId = some directory →
      (run.directoryIdentity = none ∨ run.directoryIdentity = some directory.identity) →
      Begins store run outcome j answers → fateAt answers 1 = .done →
      "termination.json" ∉ (unlinked (directory.files.map (·.name)) (answers.drop 2)).1) :
    ((run.finish store outcome true).run answers j).2.2.Proven run.operationId requestDigest
      machine := by
  by_cases begins : Begins store run outcome j answers
  · rw [run_finish_begins begins found, Prog.run_bind, run_cleanup]
    have removal := @run_removeDirectory_cut run j answers.tail _ _ proven
    rw [tail_tail, fateAt_tail] at removal
    have removal := removal fun directory present same => kept directory present same begins
    revert removal
    dsimp only
    generalize run.removeDirectory.run answers.tail j = result
    obtain ⟨outcome', rest, t⟩ := result
    rintro ⟨cut, state, proven'⟩
    cases outcome' with
    | done => exact absurd rfl cut
    | crashed => exact proven'
    | raised e =>
      dsimp only at state ⊢
      refine Prog.run_after (K := (Proven run.operationId requestDigest machine ·)) ?_ _
      unfold conclude
      rw [if_neg nofun, Prog.wp_bind, Prog.wp_pure, Prog.wp_bind]
      have written : ∀ runs, Proven run.operationId requestDigest machine
          { t with state := { j.state with runs } } :=
        fun runs => ⟨state ▸ proven'.scope, proven'.overlay, proven'.proof⟩
      exact wp_write (written _) (fun _ => proven') ⟨proven', written _⟩
  · rw [run_finish_idle begins]
    exact proven

/-- A call that goes through settles the run. -/
theorem finish_through {requestDigest machine : String} {r : Record} {directory : RunDirectory}
    {rest : List Answer} (begins : Begins store run outcome j answers)
    (found : j.state.runs.get? run.operationId = some r)
    (proven : j.Proven run.operationId requestDigest machine)
    (present : j.directories.get? run.operationId = some directory)
    (same : run.directoryIdentity = none ∨ run.directoryIdentity = some directory.identity)
    (second : fateAt answers 1 = .done)
    (left : (unlinked (directory.files.map (·.name)) (answers.drop 2)).2 = some rest)
    (settles : Settles rest) :
    ((run.finish store outcome true).run answers j).2.2.Concluded run.operationId
      r.requestDigest := by
  obtain ⟨goes, known, taken⟩ := settles
  rw [← tail_tail] at left
  obtain ⟨t, removed, state⟩ := run_removeDirectory_through proven present same
    (fateAt_tail.trans second) left goes
  have write : ∀ (settled : RunState), settled.Terminal → Concluded run.operationId r.requestDigest
      (((do
        RunStore.write { j.state with
          runs := j.state.runs.set run.operationId ⟨r.requestDigest, settled, 0⟩ }
        return { run with finished := true }) : Control OwnedRun).run (rest.drop 3).tail t).2.2 := by
    intro settled terminal
    have fate : fateAt (rest.drop 3).tail 0 = fateAt rest 4 := fateAt_tail.trans fateAt_drop
    unfold RunStore.write
    rw [Prog.run_bind, run_durable, fate]
    rcases taken with taken | taken
    · rw [taken]
      exact concluded_set terminal
    · rw [taken]
      exact concluded_set terminal
  rw [run_finish_begins begins found, Prog.run_bind, run_cleanup, removed]
  dsimp only
  unfold conclude cancelled
  rw [if_pos rfl, Prog.run_bind, Prog.run_bind, Prog.run_rescue, Prog.run_bind, run_call, fateAt_drop]
  cases answered : fateAt rest (3 + 0) with
  | crashed applied => exact absurd answered (known applied)
  | done =>
    refine write _ ?_
    split
    · trivial
    · exact begins.2.1
  | failed _ => exact write _ trivial

/-- However often it is cut short, a cleanup that does not sever the stop record from the journal
leaves the run to be recovered, or settles it. -/
theorem finish_stopped {requestDigest machine : String}
    (stopped : j.Stopped run.operationId requestDigest machine)
    (whole : ¬ run.Severs store outcome j answers) :
    let t := ((run.finish store outcome true).run answers j).2.2
    t.Stopped run.operationId requestDigest machine ∨
      t.Concluded run.operationId requestDigest := by
  intro t
  obtain ⟨r, found, live, rfl⟩ := stopped.held
  by_cases taken : ∃ directory, j.directories.get? run.operationId = some directory ∧
      (run.directoryIdentity = none ∨ run.directoryIdentity = some directory.identity) ∧
      Begins store run outcome j answers ∧ fateAt answers 1 = .done ∧
      "termination.json" ∈ (unlinked (directory.files.map (·.name)) (answers.drop 2)).1
  · obtain ⟨directory, present, same, begins, second, taken⟩ := taken
    have through : ∃ rest, (unlinked (directory.files.map (·.name)) (answers.drop 2)).2 = some rest ∧
        Settles rest := by
      by_contra cut
      refine whole ⟨begins.1, begins.2.1, begins.2.2.1, directory, present, same, begins.2.2.2, second,
        taken, fun rest left settles => cut ⟨rest, left, settles⟩⟩
    obtain ⟨rest, left, settles⟩ := through
    exact .inr (finish_through begins found stopped.toProven present same second left settles)
  · have proven := @finish_cut store run outcome j answers _ _ _ found stopped.toProven
      fun directory present same begins second mem =>
        taken ⟨directory, present, same, begins, second, mem⟩
    have moves : Moves store j t := World.finish_moves fun _ => ⟨r, found, live⟩
    exact (Moves.held moves found live).imp_left fun held => ⟨proven, held⟩

end Severs

end OwnedRun

namespace World

variable {store : RunStore} {id requestDigest machine : String}

/-- The event is a cleanup of the run that severs its stop record from the journal. -/
def Severs (store : RunStore) (id : String) (w : World) : Event → Prop
  | .finish outcome true answers => ∃ run, w.holder = some (.running run) ∧ run.operationId = id ∧
      run.Severs store outcome w.journal answers
  | .recover answers => ∃ run, w.holder = some (.recovering run) ∧ run.operationId = id ∧
      run.Severs store .failed w.journal answers
  | _ => False

/-- No event severs the stop record of the run, and nobody else touches its directory. -/
def Undisturbed (store : RunStore) (id : String) : World → List Event → Prop
  | _, [] => True
  | w, event :: events => ¬ w.Severs store id event ∧ (∀ directory, event ≠ .contents id directory) ∧
      Undisturbed store id (w.apply store event) events

theorem admitted_journal {result : Outcome Failure (OwnedRun × Bool) × List Answer × Journal} :
    (admitted result).journal = result.2.2 := by
  obtain ⟨outcome, rest, t⟩ := result
  cases outcome with
  | done entered =>
    obtain ⟨run, entered⟩ := entered
    cases entered <;> rfl
  | raised => rfl
  | crashed => rfl

theorem finished_journal {run : OwnedRun}
    {result : Outcome Failure OwnedRun × List Answer × Journal} :
    (finished run result).journal = result.2.2 := by
  obtain ⟨outcome, rest, t⟩ := result
  cases outcome <;> rfl

theorem reconciled_journal {result : Outcome Failure (Record ⊕ OwnedRun) × List Answer × Journal} :
    (reconciled result).journal = result.2.2 := by
  obtain ⟨outcome, rest, t⟩ := result
  cases outcome with
  | done answer => cases answer <;> rfl
  | raised => rfl
  | crashed => rfl

theorem leave_spares {w : World} {run : OwnedRun} {answers : List Answer} :
    Spares id w.journal (w.leave store run answers).journal := by
  unfold leave
  split
  · exact refl_of _ _
  · exact (@OwnedRun.finish_spares store run id .failed false fun h => nomatch h).run answers w.journal

theorem apply_stopped {w : World} {event : Event} (held : w.Held)
    (stopped : w.journal.Stopped id requestDigest machine) (whole : ¬ w.Severs store id event)
    (alone : ∀ directory, event ≠ .contents id directory) :
    (w.apply store event).journal.Stopped id requestDigest machine ∨
      (w.apply store event).journal.Concluded id requestDigest := by
  have spared := stopped.spared (@apply_advances store _ held event).moves
  have idle : Spares id w.journal w.journal := refl_of _ _
  obtain ⟨journal, holder⟩ := w
  cases event with
  | admitRun operationId digest diskBytes answers =>
    cases holder with
    | none =>
      refine spared ?_
      rw [apply, admitted_journal]
      exact RunStore.admitRun_spares.run answers journal
    | some holder => exact spared idle
  | finish outcome ended answers =>
    cases holder with
    | none => exact spared idle
    | some holder =>
      cases holder with
      | leaving run => exact spared idle
      | recovering run => exact spared idle
      | running run =>
        by_cases own : ended = true ∧ run.operationId = id
        · obtain ⟨rfl, rfl⟩ := own
          rw [apply, finished_journal]
          exact OwnedRun.finish_stopped stopped fun severs => whole ⟨run, rfl, rfl, severs⟩
        · refine spared ?_
          rw [apply, finished_journal]
          exact (OwnedRun.finish_spares fun ended same => own ⟨ended, same⟩).run answers journal
  | leave answers =>
    cases holder with
    | none => exact spared idle
    | some holder =>
      cases holder with
      | running run => exact spared leave_spares
      | leaving run => exact spared leave_spares
      | recovering run => exact spared idle
  | reconcile operationId digest machine' answers =>
    cases holder with
    | some holder => exact spared idle
    | none =>
      refine spared ?_
      rw [apply, reconciled_journal]
      have same : ((store.reconcile operationId digest machine').run answers journal).2.2 = journal :=
        Prog.run_after (Prog.wp_mono RunStore.wp_reconcile (fun outcome _ recovers => by
          cases outcome with
          | inl _ => exact recovers
          | inr _ => exact recovers.1) (fun _ _ h => h) fun _ h => h) answers
      rw [same]
      exact idle
  | recover answers =>
    cases holder with
    | none => exact spared idle
    | some holder =>
      cases holder with
      | running run => exact spared idle
      | leaving run => exact spared idle
      | recovering run =>
        by_cases own : run.operationId = id
        · subst own
          exact OwnedRun.finish_stopped stopped fun severs => whole ⟨run, rfl, rfl, severs⟩
        · exact spared ((OwnedRun.finish_spares fun _ => own).run answers journal)
  | die => exact spared idle
  | cancel operationId digest answers => exact spared (RunStore.cancel_spares.run answers journal)
  | bindScope scope answers => exact spared (RunStore.bindScope_spares.run answers journal)
  | contents operationId directory =>
    have other : operationId ≠ id := fun same => alone directory (same ▸ rfl)
    refine spared ?_
    unfold apply
    dsimp only
    split
    · refine ⟨fun _ h => h, fun _ present => ?_⟩
      rw [Dict.get?_set, if_neg other.symm, present]
    · exact idle

theorem foldl_stopped {w : World} {events : List Event} (held : w.Held)
    (reached : w.journal.Stopped id requestDigest machine ∨ w.journal.Concluded id requestDigest)
    (undisturbed : Undisturbed store id w events) :
    let t := (events.foldl (apply store) w).journal
    t.Stopped id requestDigest machine ∨ t.Concluded id requestDigest := by
  induction events generalizing w with
  | nil => exact reached
  | cons event events ih =>
    obtain ⟨whole, alone, rest⟩ := undisturbed
    have advances := @apply_advances store _ held event
    refine ih advances.held ?_ rest
    rcases reached with stopped | concluded
    · exact apply_stopped held stopped whole alone
    · exact .inr (Concluded.remembered concluded (Moves.remembers advances.moves))

end World

section Recovery

variable {store : RunStore} {j : Journal} {id requestDigest machine : String}

theorem Journal.Ordered.reserved {r : Record} (ordered : Ordered store j)
    (known : store.status j id = .ok r) (terminal : r.state.Terminal) : r.reservedBytes = 0 := by
  simp only [RunStore.status, bind_eq_ok, require_eq_ok, load_eq_ok, ordered.archivedRecord] at known
  obtain ⟨-, -, value, ⟨-, rfl⟩, archived, read, known⟩ := known
  cases found : j.state.runs.get? id with
  | none =>
    rw [found] at known
    cases archived with
    | none => cases known
    | some d =>
      cases known
      exact (ordered.filed id d (Except.ok.inj read)).2.2.2.1
  | some r' =>
    rw [found] at known
    cases archived with
    | none =>
      cases known
      exact (ordered.accepted id r found).2.2.2 terminal
    | some d =>
      simp only [bind_eq_ok, pure_eq_ok] at known
      obtain ⟨-, -, rfl⟩ := known
      exact (ordered.accepted id _ found).2.2.2 terminal

theorem Journal.Concluded.status (concluded : j.Concluded id requestDigest)
    (ordered : Ordered store j) (accepted : j.Accepted store) :
    ∃ r, store.status j id = .ok r ∧ r.requestDigest = requestDigest ∧ r.state.Terminal ∧
      r.reservedBytes = 0 := by
  obtain ⟨state, known, terminal⟩ := concluded
  obtain ⟨r, found, same, rfl⟩ := ordered.status accepted known
  exact ⟨r, found, same, terminal, ordered.reserved found terminal⟩

theorem OwnedRun.unlinkFiles_succeeds {run : OwnedRun} {names : List String} :
    (run.unlinkFiles names).Succeeds Answer.Done (fun _ t => t.state = j.state) j := by
  induction names generalizing j with
  | nil => exact rfl
  | cons name names ih =>
    unfold OwnedRun.unlinkFiles
    rw [Prog.succeeds_bind]
    refine succeeds_durable (fun _ h => h) (Prog.succeeds_mono ih ?_)
    rintro _ t state
    rw [state]
    split <;> rfl

theorem OwnedRun.removeDirectory_succeeds {run : OwnedRun}
    (proven : j.Proven run.operationId requestDigest machine) (unbound : run.directoryIdentity = none) :
    run.removeDirectory.Succeeds Answer.Done (fun _ t => t.state = j.state) j := by
  obtain ⟨directory, present, isPrivate, fine⟩ := proven.overlay
  unfold OwnedRun.removeDirectory
  rw [Prog.succeeds_bind]
  refine succeeds_call (fun _ h => h) fun _ _ => ?_
  rw [Prog.succeeds_bind, Prog.succeeds_read, present]
  dsimp only
  rw [Prog.succeeds_bind]
  refine Prog.succeeds_ensure ⟨isPrivate, .inl unbound⟩ ?_
  rw [Prog.succeeds_bind]
  refine Prog.succeeds_ensure fine ?_
  rw [Prog.succeeds_bind]
  refine Prog.succeeds_mono OwnedRun.unlinkFiles_succeeds ?_
  intro _ t state
  rw [Prog.succeeds_bind]
  refine succeeds_call (fun _ h => h) fun _ _ => ?_
  rw [Prog.succeeds_bind]
  refine succeeds_durable (fun _ h => h) ?_
  rw [Prog.succeeds_bind]
  exact succeeds_call (fun _ h => h) fun _ _ => state

theorem OwnedRun.finish_succeeds {run : OwnedRun} {outcome : RunState}
    (stopped : j.Stopped run.operationId requestDigest machine) (unfinished : run.finished = false)
    (unbound : run.directoryIdentity = none) (terminal : outcome.Terminal)
    (accepted : j.Accepted store) :
    (run.finish store outcome true).Succeeds Answer.Done
      (fun _ t => t.Concluded run.operationId requestDigest ∧ t.state.archive = j.state.archive) j := by
  obtain ⟨r, found, live, rfl⟩ := stopped.held
  unfold OwnedRun.finish
  rw [Prog.succeeds_bind]
  refine Prog.succeeds_ensure unfinished ?_
  rw [Prog.succeeds_bind]
  refine Prog.succeeds_ensure terminal ?_
  rw [Prog.succeeds_bind]
  refine succeeds_reading (fun _ h => h) (load_eq_ok.mpr ⟨accepted, rfl⟩) ?_
  rw [found]
  dsimp only
  rw [Prog.succeeds_bind, OwnedRun.cleanup, if_pos rfl]
  refine Prog.succeeds_rescue ?_
  rw [Prog.succeeds_bind]
  refine Prog.succeeds_mono (OwnedRun.removeDirectory_succeeds stopped.toProven unbound) ?_
  intro _ t state
  rw [Prog.succeeds_pure, Prog.succeeds_bind, OwnedRun.conclude, if_pos rfl, Prog.succeeds_bind,
    OwnedRun.cancelled]
  refine Prog.succeeds_rescue ?_
  rw [Prog.succeeds_bind]
  refine succeeds_call (fun _ h => h) fun _ _ => ?_
  rw [Prog.succeeds_bind, Prog.succeeds_read, Prog.succeeds_pure, Prog.succeeds_pure,
    Prog.succeeds_bind]
  refine succeeds_durable (fun _ h => h) ?_
  refine ⟨concluded_set ?_, rfl⟩
  split
  · trivial
  · exact terminal

/-- `reconcile`, with what it does once it has let the control lock go. -/
def RunStore.reconcileRun (store : RunStore) (operationId requestDigest : String)
    (machine : Option String) : Control Record := do
  match ← store.reconcile operationId requestDigest machine with
  | .inl record => return record
  | .inr run =>
    let _ ← run.finish store .failed true
    reading "Execution journal rejected" (store.status · operationId)

/-- A settled run is reconciled at once. -/
theorem RunStore.reconcileRun_settled {r : Record} {answers : List Answer}
    {machine : Option String} (identifier : isIdentifier id) (digest : isDigest requestDigest)
    (known : store.status j id = .ok r) (same : r.requestDigest = requestDigest)
    (terminal : r.state.Terminal) (all : ∀ answer ∈ answers, answer.Done) :
    ∃ rest, (store.reconcileRun id requestDigest machine).run answers j = (.done r, rest, j) := by
  have settled : (store.reconcileRun id requestDigest machine).Succeeds Answer.Done
      (fun r' t => r' = r ∧ t = j) j := by
    unfold RunStore.reconcileRun RunStore.reconcile
    rw [Prog.succeeds_bind, Prog.succeeds_bind]
    refine Prog.succeeds_ensure identifier ?_
    rw [Prog.succeeds_bind]
    refine Prog.succeeds_ensure digest ?_
    rw [Prog.succeeds_bind]
    refine succeeds_reading (fun _ h => h) known ?_
    rw [Prog.succeeds_bind]
    refine Prog.succeeds_ensure same ?_
    rw [if_pos terminal]
    exact ⟨rfl, rfl⟩
  obtain ⟨r', rest, t, done, rfl, rfl⟩ := settled.run rfl all
  exact ⟨rest, done⟩

/-- A run whose machine has stopped is reconciled. -/
theorem RunStore.reconcileRun_stopped (stopped : j.Stopped id requestDigest machine)
    (ordered : Ordered store j)
    (counted : ∀ archive ∈ j.state.archive, archive.count ≤ maxArchived) :
    (store.reconcileRun id requestDigest (some machine)).Succeeds Answer.Done
      (fun r t => store.status t id = .ok r ∧ r.requestDigest = requestDigest ∧ r.state.Terminal ∧
        r.reservedBytes = 0 ∧ t.state.archive = j.state.archive ∧ Ordered store t) j := by
  have accepted := ordered.counted counted
  obtain ⟨r, found, live, rfl⟩ := stopped.held
  obtain ⟨identifier, digest, -, -⟩ := ordered.accepted id r found
  obtain ⟨r', known, same, state⟩ := ordered.status accepted
    (show j.recorded id = some (r.requestDigest, r.state) by unfold recorded; rw [found])
  unfold RunStore.reconcileRun RunStore.reconcile
  rw [Prog.succeeds_bind, Prog.succeeds_bind]
  refine Prog.succeeds_ensure identifier ?_
  rw [Prog.succeeds_bind]
  refine Prog.succeeds_ensure digest ?_
  rw [Prog.succeeds_bind]
  refine succeeds_reading (fun _ h => h) known ?_
  rw [Prog.succeeds_bind]
  refine Prog.succeeds_ensure same ?_
  rw [if_neg (state ▸ live), Prog.succeeds_bind]
  refine succeeds_reading (fun _ h => h) (load_eq_ok.mpr ⟨accepted, rfl⟩) ?_
  rw [stopped.scope]
  dsimp only
  rw [Prog.succeeds_bind]
  refine Prog.succeeds_ensure rfl ?_
  rw [Prog.succeeds_bind]
  refine Prog.succeeds_ensure rfl ?_
  rw [Prog.succeeds_bind]
  refine succeeds_reading (fun _ h => h) rfl ?_
  rw [Prog.succeeds_bind]
  refine Prog.succeeds_ensure stopped.proof ?_
  rw [Prog.succeeds_pure]
  dsimp only
  rw [Prog.succeeds_bind]
  have finishes := @OwnedRun.finish_succeeds store j r.requestDigest machine
    ⟨id, r.requestDigest, none, false⟩ .failed stopped rfl rfl trivial accepted
  refine Prog.succeeds_mono (finishes.and_wp (OwnedRun.wp_finish fun _ => ⟨r, found, live⟩)) ?_
  rintro _ t ⟨⟨concluded, archive⟩, moves, -⟩
  have ordered' : Ordered store t := Moves.ordered moves ordered
  have accepted' : t.Accepted store := ordered'.counted fun kept mem => counted kept (archive ▸ mem)
  obtain ⟨r'', known, same, terminal, zero⟩ := concluded.status ordered' accepted'
  exact succeeds_reading (fun _ h => h) known ⟨known, same, terminal, zero, archive, ordered'⟩

end Recovery

namespace World

/-- Once the machine of a run is known to have stopped, the run is reconciled however often its
cleanup was cut short, as long as no cleanup severs the stop record from the journal. -/
theorem run_reconciled (store : RunStore) (past later : List Event)
    {id requestDigest machine : String}
    (stopped : (run store past).journal.Stopped id requestDigest machine)
    (undisturbed : Undisturbed store id (run store past) later)
    (counted : ∀ archive ∈ (run store (past ++ later)).journal.state.archive,
      archive.count ≤ maxArchived)
    {answers : List Answer} (all : ∀ answer ∈ answers, answer.Done) :
    let j := (run store (past ++ later)).journal
    ∃ r rest t, (store.reconcileRun id requestDigest (some machine)).run answers j =
        (.done r, rest, t) ∧
      r.requestDigest = requestDigest ∧ r.state.Terminal ∧ r.reservedBytes = 0 ∧
      ∀ answers' : List Answer, (∀ answer ∈ answers', answer.Done) → ∃ rest',
        (store.reconcileRun id requestDigest (some machine)).run answers' t = (.done r, rest', t) := by
  intro j
  have ordered : j.Ordered store := run_ordered
  obtain ⟨r₀, found, live, rfl⟩ := stopped.held
  obtain ⟨identifier, digest, -, -⟩ := (@run_ordered store past).accepted id r₀ found
  have reached := foldl_stopped (run_held past) (.inl stopped) undisturbed
  rw [← show run store (past ++ later) = later.foldl (apply store) (run store past) from
    List.foldl_append] at reached
  rcases reached with stopped | concluded
  · obtain ⟨r, rest, t, done, known, same, terminal, zero, archive, ordered'⟩ :=
      (RunStore.reconcileRun_stopped stopped ordered counted).run rfl all
    exact ⟨r, rest, t, done, same, terminal, zero, fun answers' all' =>
      RunStore.reconcileRun_settled identifier digest known same terminal all'⟩
  · obtain ⟨r, known, same, terminal, zero⟩ := concluded.status ordered (ordered.counted counted)
    obtain ⟨rest, done⟩ : ∃ rest, (store.reconcileRun id r₀.requestDigest (some machine)).run
        answers j = (.done r, rest, j) :=
      RunStore.reconcileRun_settled identifier digest known same terminal all
    exact ⟨r, rest, j, done, same, terminal, zero, fun answers' all' =>
      RunStore.reconcileRun_settled identifier digest known same terminal all'⟩

section Example

def zeros : String := String.ofList (List.replicate 64 '0')

def smallStore : RunStore :=
  ⟨zeros, maxBytes, fun _ => zeros, by decide +kernel, fun _ => by decide +kernel, by decide⟩

def stopRecord : RunFile := ⟨"termination.json", true, some ⟨"run", zeros, true⟩⟩

/-- The machine of `run` has stopped. -/
def stoppedRun : List Event :=
  [.bindScope ⟨.vm, zeros⟩ [], .admitRun "run" zeros 1 [],
    .contents "run" ⟨512 * 1024 ^ 3, true, [stopRecord, ⟨"disk.img", true, none⟩]⟩]

theorem stoppedRun_stopped : (run smallStore stoppedRun).journal.Stopped "run" zeros zeros where
  scope := by decide +kernel
  overlay := ⟨⟨512 * 1024 ^ 3, true, [stopRecord, ⟨"disk.img", true, none⟩]⟩, by decide +kernel, rfl,
    by decide⟩
  proof := by decide +kernel
  held := ⟨⟨zeros, .admitted, 1⟩, by decide +kernel, not_false, rfl⟩

/-- The process dies before it unlinks a file. -/
def earlyCut : List Event := [.finish .failed true [{}, {}, { fate := .crashed false }]]

theorem earlyCut_undisturbed :
    Undisturbed smallStore "run" (run smallStore stoppedRun) earlyCut := by
  refine ⟨?_, fun _ => nofun, trivial⟩
  rintro ⟨run', holder, -, -, -, -, directory, -, -, -, -, taken, -⟩
  have untouched : ∀ names : List String,
      (OwnedRun.unlinked names [{ fate := .crashed false }]).1 = [] := fun names => by
    cases names <;> rfl
  exact absurd taken (untouched _ ▸ List.not_mem_nil)

theorem earlyCut_reconciled :
    let j := (run smallStore (stoppedRun ++ earlyCut)).journal
    ∃ r rest t, (smallStore.reconcileRun "run" zeros (some zeros)).run [] j = (.done r, rest, t) ∧
      r.requestDigest = zeros ∧ r.state.Terminal ∧ r.reservedBytes = 0 ∧
      ∀ answers' : List Answer, (∀ answer ∈ answers', answer.Done) → ∃ rest',
        (smallStore.reconcileRun "run" zeros (some zeros)).run answers' t = (.done r, rest', t) :=
  run_reconciled smallStore stoppedRun earlyCut stoppedRun_stopped earlyCut_undisturbed
    (by decide +kernel) (List.forall_mem_nil _)

/-- The process dies once it has unlinked the stop record. -/
def severedCut : List Event := [.finish .failed true [{}, {}, {}, { fate := .crashed false }]]

/-- The store stays quarantined. -/
theorem severedCut_unreconciled : (run smallStore stoppedRun).journal.Stopped "run" zeros zeros ∧
    (∀ event ∈ severedCut, ∀ directory, event ≠ .contents "run" directory) ∧
    ((smallStore.reconcileRun "run" zeros (some zeros)).run []
      (run smallStore (stoppedRun ++ severedCut)).journal).1 =
      .raised (.denied "Native termination recovery unavailable") := by
  refine ⟨stoppedRun_stopped, ?_, by decide +kernel⟩
  rintro _ (_ | ⟨_, ⟨⟩⟩) _
  exact nofun

end Example

end World

end Reproof.Execution

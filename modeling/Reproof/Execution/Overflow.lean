import Mathlib.Data.List.Perm.Subperm
import Reproof.Execution.Archive

/-! One run after another is admitted, finished and archived, until the archive can no longer be
counted. -/

namespace Reproof.Execution

open Contracts Library Journal

/-- The call succeeded, and there is room on the disk. -/
def Answer.Roomy (answer : Answer) : Prop := answer.fate = .done ∧ 1 ≤ answer.value

variable {store : RunStore} {j : Journal} {id requestDigest : String}

theorem Answer.Roomy.done (answer : Answer) (roomy : answer.Roomy) : answer.Done := roomy.1

namespace Journal

/-- Every run is settled, and its directory is removed. -/
structure Settled (j : Journal) : Prop where
  terminal : ∀ id r, j.state.runs.get? id = some r → r.state.Terminal
  clear : ∀ id, j.directories.get? id = none

/-- What is on disk once a run is admitted among settled ones. -/
structure Running (run : OwnedRun) (j : Journal) : Prop where
  unfinished : run.finished = false
  made : ∃ identity, run.directoryIdentity = some identity ∧
    j.directories.get? run.operationId = some ⟨identity, true, []⟩
  recorded : ∃ r, j.state.runs.get? run.operationId = some r
  others : ∀ id r, j.state.runs.get? id = some r → id ≠ run.operationId → r.state.Terminal
  clear : ∀ id, id ≠ run.operationId → j.directories.get? id = none

theorem Settled.makeRoom (settled : Settled j) (ordered : Ordered store j) :
    (store.makeRoom j.state).Succeeds Answer.Roomy
      (fun value t => t.state = value ∧ t.directories = j.directories ∧
        value.runs.keys.length < maxRuns ∧
        ∀ id r, value.runs.get? id = some r → j.state.runs.get? id = some r) j := by
  unfold RunStore.makeRoom
  split
  · refine Prog.succeeds_mono (ordered.archiveTerminal Answer.Roomy.done) ?_
    rintro value t ⟨state, directories, runs⟩
    have empty : value.runs.keys = [] := by
      rw [runs, Dict.keys_filterKeys, List.filter_eq_nil_iff]
      intro id mem
      obtain ⟨r, found⟩ := Dict.mem_keys.mp mem
      have terminal := settled.terminal id r found
      have zero := (ordered.accepted id r found).2.2.2 terminal
      simpa using RunStore.mem_archivableIds.mpr ⟨r, found, terminal, zero, settled.clear id⟩
    refine ⟨state, directories, by simp [empty, maxRuns], fun id r found => ?_⟩
    rw [runs] at found
    exact (Dict.get?_filterKeys_some found).2
  · rename_i room
    exact ⟨rfl, rfl, Nat.lt_of_not_le room, fun _ _ found => found⟩

theorem Settled.quarantineAdmitted (settled : Settled j) {Q : Document → Journal → Prop}
    (hq : Q j.state j) : (RunStore.quarantineAdmitted j.state).Succeeds Answer.Roomy Q j := by
  unfold RunStore.quarantineAdmitted
  rw [if_neg]
  · exact hq
  · rintro ⟨r, mem, admitted⟩
    obtain ⟨id, found⟩ := Dict.mem_values.mp mem
    have terminal := settled.terminal id r found
    rw [admitted] at terminal
    exact terminal

theorem makeDirectory_succeeds (absent : j.directories.get? id = none)
    {Q : Nat → Journal → Prop} (hq : ∀ identity, Q identity { j with
      directories := j.directories.set id ⟨identity, true, []⟩ }) :
    (RunStore.makeDirectory id).Succeeds Answer.Roomy Q j := by
  unfold RunStore.makeDirectory
  rw [Prog.succeeds_bind, Prog.succeeds_read, Prog.succeeds_bind]
  refine Prog.succeeds_ensure absent ?_
  rw [Prog.succeeds_bind]
  refine succeeds_call Answer.Roomy.done fun identity _ => ?_
  rw [Prog.succeeds_bind]
  refine succeeds_durable Answer.Roomy.done ?_
  rw [Prog.succeeds_bind]
  exact succeeds_call Answer.Roomy.done fun _ _ => hq identity.value

theorem Settled.admitRun (settled : Settled j) (ordered : Ordered store j)
    (accepted : j.Accepted store) (identifier : isIdentifier id) (digest : isDigest requestDigest)
    (new : j.recorded id = none) :
    (store.admitRun id requestDigest 1).Succeeds Answer.Roomy
      (fun admitted t => admitted.2 = true ∧ admitted.1.operationId = id ∧ Running admitted.1 t)
      j := by
  obtain ⟨fresh, unarchived⟩ : id ∉ j.state.runs.keys ∧ id ∉ j.archived.keys := by
    unfold recorded at new
    cases found : j.state.runs.get? id with
    | none =>
      rw [found] at new
      exact ⟨Dict.get?_eq_none.mp found, Dict.get?_eq_none.mp (Option.map_eq_none_iff.mp new)⟩
    | some r =>
      rw [found] at new
      cases new
  unfold RunStore.admitRun
  rw [Prog.succeeds_bind]
  refine Prog.succeeds_ensure identifier ?_
  rw [Prog.succeeds_bind]
  refine Prog.succeeds_ensure digest ?_
  rw [Prog.succeeds_bind]
  refine Prog.succeeds_ensure ⟨Int.le_refl _, (by decide : (1 : Int) ≤ maxBytes)⟩ ?_
  rw [Prog.succeeds_bind]
  refine succeeds_call Answer.Roomy.done fun _ _ => ?_
  rw [Prog.succeeds_bind]
  refine succeeds_reading Answer.Roomy.done (load_eq_ok.mpr ⟨accepted, rfl⟩) ?_
  rw [Prog.succeeds_bind]
  refine settled.quarantineAdmitted ?_
  rw [Prog.succeeds_bind]
  refine succeeds_reading Answer.Roomy.done rfl ?_
  rw [Prog.succeeds_bind]
  refine Prog.succeeds_ensure ⟨fresh, unarchived⟩ ?_
  rw [Prog.succeeds_bind]
  refine Prog.succeeds_mono (settled.makeRoom ordered) ?_
  rintro value t ⟨state, directories, room, kept⟩
  have terminal : ∀ id r, value.runs.get? id = some r → r.state.Terminal :=
    fun id r found => settled.terminal id r (kept id r found)
  rw [Prog.succeeds_bind]
  refine Prog.succeeds_ensure ⟨room, fun r mem quarantined => ?_⟩ ?_
  · obtain ⟨id, found⟩ := Dict.mem_values.mp mem
    have settled := terminal id r found
    rw [quarantined] at settled
    exact settled
  rw [Prog.succeeds_bind]
  refine succeeds_call Answer.Roomy.done fun free roomy => ?_
  rw [Prog.succeeds_bind]
  have nothing : value.runs.total (·.reservedBytes) = 0 := Dict.total_eq_zero fun id r found =>
    (ordered.accepted id r (kept id r found)).2.2.2 (terminal id r found)
  refine Prog.succeeds_ensure ⟨?_, Int.ofNat_le.mpr roomy.2⟩ ?_
  · rw [nothing, Int.zero_add]
    exact store.diskBounded.1
  rw [Prog.succeeds_bind]
  refine succeeds_durable Answer.Roomy.done ?_
  refine Prog.succeeds_rescue ?_
  rw [Prog.succeeds_bind]
  refine makeDirectory_succeeds ?_ fun identity => ⟨rfl, rfl, rfl, ⟨identity, rfl, ?_⟩,
    ⟨⟨requestDigest, .admitted, 1⟩, ?_⟩, fun k r found other => ?_, fun k other => ?_⟩
  · rw [directories]
    exact settled.clear id
  · rw [Dict.get?_set, if_pos rfl]
  · exact Dict.get?_set.trans (if_pos rfl)
  · rcases Dict.get?_set_some found with ⟨same, -⟩ | ⟨-, old⟩
    · exact absurd same other
    · exact terminal k r old
  · rw [Dict.get?_set, if_neg other, directories]
    exact settled.clear k

theorem Running.removeDirectory {run : OwnedRun} (running : Running run j) :
    run.removeDirectory.Succeeds Answer.Roomy
      (fun _ t => t = { j with directories := j.directories.erase run.operationId }) j := by
  obtain ⟨identity, same, found⟩ := running.made
  unfold OwnedRun.removeDirectory
  rw [Prog.succeeds_bind]
  refine succeeds_call Answer.Roomy.done fun _ _ => ?_
  rw [Prog.succeeds_bind, Prog.succeeds_read, found]
  dsimp only
  rw [Prog.succeeds_bind]
  refine Prog.succeeds_ensure ⟨rfl, .inr same⟩ ?_
  rw [Prog.succeeds_bind]
  refine Prog.succeeds_ensure nofun ?_
  rw [Prog.succeeds_bind, List.map_nil, OwnedRun.unlinkFiles, Prog.succeeds_pure, Prog.succeeds_bind]
  refine succeeds_call Answer.Roomy.done fun _ _ => ?_
  rw [Prog.succeeds_bind]
  refine succeeds_durable Answer.Roomy.done ?_
  rw [Prog.succeeds_bind]
  exact succeeds_call Answer.Roomy.done fun _ _ => rfl

theorem Running.finish {run : OwnedRun} (running : Running run j) (accepted : j.Accepted store) :
    (run.finish store .succeeded true).Succeeds Answer.Roomy
      (fun run' t => run'.finished = true ∧ Settled t) j := by
  obtain ⟨r, found⟩ := running.recorded
  unfold OwnedRun.finish
  rw [Prog.succeeds_bind]
  refine Prog.succeeds_ensure running.unfinished ?_
  rw [Prog.succeeds_bind]
  refine Prog.succeeds_ensure trivial ?_
  rw [Prog.succeeds_bind]
  refine succeeds_reading Answer.Roomy.done (load_eq_ok.mpr ⟨accepted, rfl⟩) ?_
  rw [found]
  dsimp only
  rw [Prog.succeeds_bind, OwnedRun.cleanup, if_pos rfl]
  refine Prog.succeeds_rescue ?_
  rw [Prog.succeeds_bind]
  refine Prog.succeeds_mono running.removeDirectory ?_
  rintro _ t rfl
  rw [Prog.succeeds_pure, Prog.succeeds_bind, OwnedRun.conclude, if_pos rfl, Prog.succeeds_bind,
    OwnedRun.cancelled]
  refine Prog.succeeds_rescue ?_
  rw [Prog.succeeds_bind]
  refine succeeds_call Answer.Roomy.done fun _ _ => ?_
  rw [Prog.succeeds_bind, Prog.succeeds_read, Prog.succeeds_pure, Prog.succeeds_pure,
    Prog.succeeds_bind]
  refine succeeds_durable Answer.Roomy.done ?_
  refine ⟨rfl, fun id r' found' => ?_, fun id => ?_⟩
  · rcases Dict.get?_set_some found' with ⟨-, rfl⟩ | ⟨other, old⟩
    · dsimp only
      split <;> trivial
    · exact running.others id r' old other
  · rw [Dict.get?_erase]
    split
    · rfl
    · rename_i other
      exact running.clear id other

/-- The operations that the journal knows. -/
def known (j : Journal) : List String := j.state.runs.keys ++ j.official.keys

theorem nodup_known : j.known.Nodup := by
  refine List.Nodup.append j.state.runs.nodup j.official.nodup fun id mem counted => ?_
  change id ∈ j.official.keys at counted
  rw [official, Dict.keys_filterKeys, List.mem_filter] at counted
  exact of_decide_eq_true counted.2 mem

theorem mem_known : id ∈ j.known ↔ (j.recorded id).isSome := by
  rw [known, List.mem_append, official, Dict.keys_filterKeys, List.mem_filter, recorded]
  cases found : j.state.runs.get? id with
  | none => simp [Dict.mem_keys, found, Option.isSome_iff_exists]
  | some r => simp [Dict.mem_keys, found]

/-- Among more names than the journal knows there is one that it does not know. -/
theorem exists_unknown {names : List String} (nodup : names.Nodup)
    (more : j.known.length < names.length) : ∃ id ∈ names, j.recorded id = none := by
  by_contra all
  refine Nat.not_le_of_lt more (List.Nodup.subperm nodup fun id mem => ?_).length_le
  rw [mem_known, Option.isSome_iff_ne_none]
  exact fun none => all ⟨id, mem, none⟩

theorem Remembers.known_lt {t : Journal} (remembers : Remembers j t) (new : j.recorded id = none)
    (now : (t.recorded id).isSome) : j.known.length < t.known.length := by
  have nodup : (id :: j.known).Nodup := by
    refine List.nodup_cons.mpr ⟨?_, nodup_known⟩
    rw [mem_known, new]
    exact Bool.false_ne_true
  refine (List.Nodup.subperm nodup fun k mem => ?_).length_le
  rw [mem_known]
  rcases List.mem_cons.mp mem with rfl | old
  · exact now
  · obtain ⟨⟨digest, state⟩, before⟩ := Option.isSome_iff_exists.mp (mem_known.mp old)
    obtain ⟨state', after, -⟩ := remembers k digest state before
    rw [after]
    rfl

end Journal

namespace World

def digits : String := "0000000000000000000000000000000000000000000000000000000000000000"

/-- One more operation is admitted, and finished. -/
theorem grow {events : List Event} {id : String}
    (loads : ∀ events, (run store events).journal.Accepted store)
    (settled : (run store events).journal.Settled) (free : (run store events).holder = none)
    (identifier : isIdentifier id) (new : (run store events).journal.recorded id = none) :
    ∃ events', (run store events').journal.Settled ∧ (run store events').holder = none ∧
      (run store events).journal.known.length < (run store events').journal.known.length := by
  have usual : Answer.Roomy default := ⟨rfl, by decide⟩
  have digest : isDigest digits := by decide +kernel
  obtain ⟨⟨run₁, entered⟩, rest₁, t₁, admits, rfl, same, running⟩ :=
    (settled.admitRun run_ordered (loads events) identifier digest new).run usual
      (List.forall_mem_nil _)
  have first : run store (events ++ [Event.admitRun id digits 1 []]) = ⟨t₁, some (.running run₁)⟩ := by
    rw [run_snoc, apply, free]
    dsimp only
    rw [admits]
    rfl
  have accepted : t₁.Accepted store := by
    have := loads (events ++ [Event.admitRun id digits 1 []])
    rw [first] at this
    exact this
  obtain ⟨run₂, rest₂, t₂, finishes, finished, settled₂⟩ :=
    (running.finish accepted).run usual (List.forall_mem_nil _)
  have second : run store (events ++ [Event.admitRun id digits 1 []] ++ [Event.finish .succeeded true []]) =
      ⟨t₂, some (.running run₂)⟩ := by
    rw [run_snoc, first]
    change World.finished run₁ ((run₁.finish store .succeeded true).run [] t₁) = _
    rw [finishes]
    rfl
  have third : run store (events ++ [Event.admitRun id digits 1 []] ++ [Event.finish .succeeded true []] ++
      [Event.leave []]) = ⟨t₂, none⟩ := by
    rw [run_snoc, second]
    change World.leave store ⟨t₂, _⟩ run₂ [] = _
    rw [leave, if_pos finished]
  have remembers₁ : (run store events).journal.Remembers t₁ := by
    have := @run_remembers store events [Event.admitRun id digits 1 []]
    rw [first] at this
    exact this
  have remembers₂ : t₁.Remembers t₂ := by
    have := @run_remembers store (events ++ [Event.admitRun id digits 1 []]) [Event.finish .succeeded true []]
    rw [first, second] at this
    exact this
  have now : (t₂.recorded id).isSome := by
    obtain ⟨r, found⟩ := running.recorded
    obtain ⟨state, after, -⟩ := remembers₂ id r.requestDigest r.state (by
      rw [← same, recorded, found])
    rw [after]
    rfl
  refine ⟨_, by rw [third]; exact settled₂, by rw [third], ?_⟩
  rw [third]
  exact (remembers₁.trans remembers₂).known_lt new now

theorem start_settled : (run store []).journal.Settled :=
  ⟨nofun, fun _ => rfl⟩

theorem grows (loads : ∀ events, (run store events).journal.Accepted store) {names : List String}
    (identifiers : ∀ id ∈ names, isIdentifier id) (nodup : names.Nodup) {n : Nat}
    (enough : n ≤ names.length) :
    ∃ events, (run store events).journal.Settled ∧ (run store events).holder = none ∧
      n ≤ (run store events).journal.known.length := by
  induction n with
  | zero => exact ⟨[], start_settled, rfl, Nat.zero_le _⟩
  | succ n ih =>
    obtain ⟨events, settled, free, known⟩ := ih (Nat.le_of_succ_le enough)
    by_cases reached : n + 1 ≤ (run store events).journal.known.length
    · exact ⟨events, settled, free, reached⟩
    · obtain ⟨id, mem, new⟩ := exists_unknown (j := (run store events).journal) nodup (by omega)
      obtain ⟨events', settled', free', more⟩ := grow loads settled free (identifiers id mem) new
      exact ⟨events', settled', free', by omega⟩

section Names

/-- A number in as many binary digits as asked for. -/
def binary : Nat → Nat → List Char
  | 0, _ => []
  | width + 1, n => (if n % 2 = 1 then '1' else '0') :: binary width (n / 2)

def name (n : Nat) : String := String.ofList ('a' :: binary 32 n)

theorem binary_digit {width n : Nat} : ∀ c ∈ binary width n, c = '0' ∨ c = '1' := by
  induction width generalizing n with
  | zero => nofun
  | succ width ih =>
    intro c mem
    rcases List.mem_cons.mp mem with rfl | mem
    · split
      · exact .inr rfl
      · exact .inl rfl
    · exact ih c mem

theorem length_binary {width n : Nat} : (binary width n).length = width := by
  induction width generalizing n with
  | zero => rfl
  | succ width ih => rw [binary, List.length_cons, ih]

theorem binary_inj {width m n : Nat} (hm : m < 2 ^ width) (hn : n < 2 ^ width)
    (same : binary width m = binary width n) : m = n := by
  induction width generalizing m n with
  | zero => omega
  | succ width ih =>
    obtain ⟨first, rest⟩ := List.cons.inj same
    have half : m / 2 = n / 2 := ih (by omega) (by omega) rest
    have parity : m % 2 = 1 ↔ n % 2 = 1 := by
      by_cases odd : m % 2 = 1 <;> by_cases odd' : n % 2 = 1 <;> simp_all
    omega

theorem name_identifier (n : Nat) : isIdentifier (name n) := by
  unfold isIdentifier name
  rw [String.toList_ofList]
  refine ⟨by decide, by rw [length_binary]; decide, fun c mem => ?_⟩
  rcases binary_digit c mem with rfl | rfl
  · decide
  · decide

/-- More names than an archive can count. -/
def names : List String := (List.range (maxArchived + maxRuns + 1)).map name

theorem nodup_names : names.Nodup := by
  refine List.Nodup.map_on (fun m hm n hn same => ?_) List.nodup_range
  rw [List.mem_range] at hm hn
  have bound : maxArchived + maxRuns + 1 ≤ 2 ^ 32 := by decide
  refine @binary_inj 32 m n (by omega) (by omega) ?_
  exact (List.cons.inj (String.ofList_injective same)).2

end Names

/-- Some run of the processes makes an archive that `_load` does not count. -/
theorem overflows (store : RunStore) : ∃ events, ¬ (run store events).journal.Accepted store := by
  by_contra never
  have loads : ∀ events, (run store events).journal.Accepted store :=
    fun events => not_not.mp fun rejected => never ⟨events, rejected⟩
  have identifiers : ∀ id ∈ names, isIdentifier id := by
    intro id mem
    obtain ⟨n, -, rfl⟩ := List.mem_map.mp mem
    exact name_identifier n
  have length : names.length = maxArchived + maxRuns + 1 := by
    rw [names, List.length_map, List.length_range]
  obtain ⟨events, -, -, many⟩ := grows loads identifiers nodup_names (Nat.le_of_eq length.symm)
  have ordered := @run_ordered store events
  have counted : (run store events).journal.official.entries.length ≤ maxArchived := by
    rw [← ordered.count]
    cases archive : (run store events).journal.state.archive with
    | none => exact Nat.zero_le _
    | some archive' => exact ((loads events).2.2.2.2.1 archive' archive).1.2
  have room := ordered.room
  rw [Journal.known, List.length_append, Dict.length_keys (d := Journal.official _)] at many
  omega

/-- A history after which `status` no longer succeeds. -/
theorem status_overflows : ¬ ∀ (store : RunStore) (events : List Event),
    (run store events).journal.Accepted store ∧
    ∀ id, ((run store events).journal.recorded id).isSome →
      ∃ r, store.status (run store events).journal id = .ok r := by
  intro claim
  obtain ⟨events, rejected⟩ := overflows
    ⟨digits, 1, fun _ => digits, by decide +kernel, fun _ => by decide +kernel, by decide⟩
  exact rejected (claim _ events).1

end World

end Reproof.Execution

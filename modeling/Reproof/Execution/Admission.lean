import Reproof.Execution.Runs

/-! Space is released, and a further run is admitted, only when no overlay can remain. -/

namespace Reproof.Execution

open Library Journal

namespace Journal

variable {store : RunStore} {j t : Journal} {id : String}

def Quarantined (j : Journal) (id : String) : Prop :=
  ∃ r, j.state.runs.get? id = some r ∧ r.state = .quarantined

structure Sound (store : RunStore) (j : Journal) : Prop where
  single : ∀ id id' r r', j.state.runs.get? id = some r → j.state.runs.get? id' = some r' →
    r.state = .admitted → r'.state = .admitted → id = id'
  reserved : ∀ id r, j.state.runs.get? id = some r → 0 ≤ r.reservedBytes
  budget : j.state.runs.total (·.reservedBytes) ≤ store.diskLimit
  released : ∀ id r, j.state.runs.get? id = some r → r.reservedBytes = 0 →
    r.state.Terminal ∧ j.directories.get? id = none

theorem Sound.fresh : Sound store store.fresh where
  single _ _ _ _ found := nomatch found
  reserved _ _ found := nomatch found
  budget := Int.le_trans (by decide : (0 : Int) ≤ 1) store.diskBounded.1
  released _ _ found := nomatch found

/-- A record may be changed where it stands, as long as it keeps what an overlay needs. -/
theorem Sound.update {r r' : Record} (sound : Sound store j) (found : j.state.runs.get? id = some r)
    (settled : r'.state ≠ .admitted) (le : r'.reservedBytes ≤ r.reservedBytes)
    (reserved : 0 ≤ r'.reservedBytes)
    (released : r'.reservedBytes = 0 → r'.state.Terminal ∧ j.directories.get? id = none) :
    Sound store { j with state := { j.state with runs := j.state.runs.set id r' } } := by
  have get := @Dict.get?_set_some _ _ j.state.runs id
  refine ⟨fun id₁ id₂ r₁ r₂ found₁ found₂ admitted₁ admitted₂ => ?_, fun id₁ r₁ found₁ => ?_, ?_,
    fun id₁ r₁ found₁ zero => ?_⟩
  · rcases get found₁ with ⟨-, rfl⟩ | ⟨-, old₁⟩
    · exact absurd admitted₁ settled
    · rcases get found₂ with ⟨-, rfl⟩ | ⟨-, old₂⟩
      · exact absurd admitted₂ settled
      · exact sound.single id₁ id₂ r₁ r₂ old₁ old₂ admitted₁ admitted₂
  · rcases get found₁ with ⟨-, rfl⟩ | ⟨-, old⟩
    · exact reserved
    · exact sound.reserved id₁ r₁ old
  · exact Int.le_trans (Dict.total_set_le found le) sound.budget
  · rcases get found₁ with ⟨rfl, rfl⟩ | ⟨-, old⟩
    · exact released zero
    · exact sound.released id₁ r₁ old zero

theorem Step.sound (step : Step store j t) (sound : Sound store j) : Sound store t := by
  cases step with
  | quarantine =>
    have get : ∀ id r, (j.state.runs.mapValues Record.quarantine).get? id = some r →
        ∃ r', j.state.runs.get? id = some r' ∧ r'.quarantine = r := fun id r found => by
      rw [Dict.get?_mapValues] at found
      exact Option.map_eq_some_iff.mp found
    refine ⟨fun id id' r r' found found' admitted => ?_, fun id r found => ?_, ?_,
      fun id r found zero => ?_⟩
    · obtain ⟨r, -, rfl⟩ := get id r found
      exact absurd admitted Record.quarantine_ne_admitted
    · obtain ⟨r', found', rfl⟩ := get id r found
      rw [Record.quarantine_reservedBytes]
      exact sound.reserved id r' found'
    · rw [Dict.total_mapValues fun _ _ => Record.quarantine_reservedBytes]
      exact sound.budget
    · obtain ⟨r', found', rfl⟩ := get id r found
      rw [Record.quarantine_reservedBytes] at zero
      obtain ⟨terminal, gone⟩ := sound.released id r' found' zero
      rw [Record.quarantine_of_terminal terminal]
      exact ⟨terminal, gone⟩
  | @record new record accepted admitted reserved fresh unarchived room settled budget =>
    refine ⟨fun id id' r r' found found' admitted admitted' => ?_, fun id r found => ?_, ?_,
      fun id r found zero => ?_⟩
    · have only : ∀ id r, (j.state.runs.set new record).get? id = some r → r.state = .admitted →
          id = new := fun id r found admitted => by
        rcases Dict.get?_set_some found with ⟨same, -⟩ | ⟨-, old⟩
        · exact same
        · have terminal := settled id r old
          rw [admitted] at terminal
          exact terminal.elim
      rw [only id r found admitted, only id' r' found' admitted']
    · rcases Dict.get?_set_some found with ⟨-, rfl⟩ | ⟨-, old⟩
      · omega
      · exact sound.reserved id r old
    · rw [Dict.total_set_new fresh]
      exact budget
    · rcases Dict.get?_set_some found with ⟨-, rfl⟩ | ⟨-, old⟩
      · omega
      · exact sound.released id r old zero
  | @directory new record directory found held absent =>
    refine ⟨sound.single, sound.reserved, sound.budget, fun id r found' zero => ?_⟩
    obtain ⟨terminal, gone⟩ := sound.released id r found' zero
    refine ⟨terminal, ?_⟩
    change (j.directories.set new directory).get? id = none
    rw [Dict.get?_set, if_neg, gone]
    rintro rfl
    cases found.symm.trans found'
    exact held terminal
  | @contents other directory directory' present =>
    refine ⟨sound.single, sound.reserved, sound.budget, fun id r found zero => ?_⟩
    obtain ⟨terminal, gone⟩ := sound.released id r found zero
    refine ⟨terminal, ?_⟩
    change (j.directories.set other directory').get? id = none
    rw [Dict.get?_set, if_neg, gone]
    rintro rfl
    cases present.symm.trans gone
  | remove other =>
    refine ⟨sound.single, sound.reserved, sound.budget, fun id r found zero => ?_⟩
    obtain ⟨terminal, gone⟩ := sound.released id r found zero
    refine ⟨terminal, ?_⟩
    change (j.directories.erase other).get? id = none
    rw [Dict.get?_erase, gone, ite_self]
  | @hold held record found live =>
    exact sound.update found nofun (Int.le_refl _) (sound.reserved held record found)
      fun zero => absurd (sound.released held record found zero).1 live
  | archive found terminal zero gone fresh =>
    exact ⟨sound.single, sound.reserved, sound.budget, sound.released⟩
  | @commit ids nonempty filed covers =>
    have get : ∀ id r, (j.state.runs.filterKeys (· ∉ ids)).get? id = some r →
        j.state.runs.get? id = some r := fun id r found => (Dict.get?_filterKeys_some found).2
    refine ⟨fun id id' r r' found found' => sound.single id id' r r' (get _ _ found) (get _ _ found'),
      fun id r found => sound.reserved id r (get _ _ found), ?_,
      fun id r found => sound.released id r (get _ _ found)⟩
    rw [Dict.total_filterKeys]
    · exact sound.budget
    · intro id r found mem
      obtain ⟨r', found', -, zero, -⟩ := filed id (not_not.mp mem)
      cases found.symm.trans found'
      exact zero
  | cancel => exact ⟨sound.single, sound.reserved, sound.budget, sound.released⟩
  | scope valid => exact ⟨sound.single, sound.reserved, sound.budget, sound.released⟩

theorem Settle.sound (settle : Settle id j t) (sound : Sound store j) : Sound store t := by
  cases settle with
  | @intro record outcome found live gone terminal =>
    refine sound.update found ?_ (sound.reserved id record found) (Int.le_refl _) fun _ =>
      ⟨terminal, gone⟩
    rintro rfl
    exact terminal

theorem Quiet.sound (quiet : Quiet store j t) (sound : Sound store j) : Sound store t := by
  induction quiet with
  | refl => exact sound
  | tail _ step ih => exact step.sound ih

theorem Moves.sound (moves : Moves store j t) (sound : Sound store j) : Sound store t := by
  rcases moves with quiet | ⟨id, u, quiet, -, settle⟩
  · exact Quiet.sound quiet sound
  · exact settle.sound (Quiet.sound quiet sound)

section Quarantined

/-- While a record is quarantined, a step neither settles it nor records another run. -/
theorem Step.quarantined (step : Step store j t) (quarantined : Quarantined j id) :
    Quarantined t id ∧ t.state.runs.keys ⊆ j.state.runs.keys := by
  obtain ⟨r, found, state⟩ := quarantined
  have live : ¬ r.state.Terminal := by
    rw [state]
    exact not_false
  cases step with
  | quarantine =>
    refine ⟨⟨r.quarantine, ?_, Record.quarantine_of_live live⟩, ?_⟩
    · rw [Dict.get?_mapValues, found]
      rfl
    · rw [Dict.keys_mapValues]
      exact List.Subset.refl _
  | record accepted admitted reserved fresh unarchived room settled budget =>
    exact absurd (settled id r found) live
  | @hold held record found' live' =>
    refine ⟨?_, ?_⟩
    · by_cases same : id = held
      · exact ⟨{ record with state := .quarantined }, by rw [Dict.get?_set, if_pos same], rfl⟩
      · exact ⟨r, by rw [Dict.get?_set, if_neg same, found], state⟩
    · rw [Dict.keys_set, if_pos (Dict.mem_keys.mpr ⟨record, found'⟩)]
      exact List.Subset.refl _
  | @commit ids nonempty filed covers =>
    refine ⟨⟨r, ?_, state⟩, ?_⟩
    · rw [Dict.get?_filterKeys, if_pos, found]
      intro mem
      obtain ⟨r', found', terminal, -⟩ := filed id mem
      cases found.symm.trans found'
      exact live terminal
    · rw [Dict.keys_filterKeys]
      exact List.filter_sublist.subset
  | directory | contents | remove | archive | cancel | scope =>
    exact ⟨⟨r, found, state⟩, List.Subset.refl _⟩

theorem Quiet.quarantined (quiet : Quiet store j t) (quarantined : Quarantined j id) :
    Quarantined t id ∧ t.state.runs.keys ⊆ j.state.runs.keys := by
  induction quiet with
  | refl => exact ⟨quarantined, List.Subset.refl _⟩
  | tail _ step ih =>
    obtain ⟨still, keys⟩ := step.quarantined ih.1
    exact ⟨still, List.Subset.trans keys ih.2⟩

/-- The directory of the run was there, and it is gone now that the record is terminal. -/
def Released (j t : Journal) (id : String) : Prop :=
  (j.directories.get? id).isSome ∧ t.directories.get? id = none ∧
  ∃ r, t.state.runs.get? id = some r ∧ r.state.Terminal ∧ r.reservedBytes = 0

theorem Moves.quarantined (moves : Moves store j t) (quarantined : Quarantined j id) :
    (Quarantined t id ∨ Released j t id) ∧ t.state.runs.keys ⊆ j.state.runs.keys := by
  rcases moves with quiet | ⟨settled, u, quiet, present, settle⟩
  · obtain ⟨still, keys⟩ := Quiet.quarantined quiet quarantined
    exact ⟨.inl still, keys⟩
  · obtain ⟨⟨r, found, state⟩, keys⟩ := Quiet.quarantined quiet quarantined
    cases settle with
    | @intro record outcome found' live gone terminal =>
      refine ⟨?_, ?_⟩
      · by_cases same : id = settled
        · subst same
          exact .inr ⟨present, gone, _, by rw [Dict.get?_set, if_pos rfl], terminal, rfl⟩
        · exact .inl ⟨r, by rw [Dict.get?_set, if_neg same, found], state⟩
      · rw [Dict.keys_set, if_pos (Dict.mem_keys.mpr ⟨record, found'⟩)]
        exact keys

end Quarantined

end Journal

namespace World

variable {store : RunStore} {events : List Event}

theorem run_sound : (run store events).journal.Sound store := by
  induction events using List.reverseRecOn with
  | nil => exact .fresh
  | append_singleton events event ih =>
    rw [run_snoc]
    exact Moves.sound (apply_advances (run_held events) event).moves ih

/-- An admission is refused while a record is quarantined. -/
theorem admit_refused {w : World} {operationId requestDigest id : String} {diskBytes : Int}
    {answers : List Answer} (free : w.holder = none) (quarantined : w.journal.Quarantined id) :
    (w.apply store (.admitRun operationId requestDigest diskBytes answers)).holder = none := by
  obtain ⟨r, found, state⟩ := quarantined
  have after := Prog.run_wp
    (@RunStore.wp_admit store w.journal operationId requestDigest diskBytes) answers
  simp only [apply, free]
  revert after
  generalize (store.admitRun operationId requestDigest diskBytes).run answers w.journal = result
  rcases result with ⟨outcome, rest, t⟩
  cases outcome with
  | done admitted =>
    intro admits
    have terminal := admits.settled id r found
    rw [state] at terminal
    exact terminal.elim
  | raised e => exact fun _ => rfl
  | crashed => exact fun _ => rfl

/-- Whatever the processes do to one journal root, and wherever they crash: at most one run is
admitted, the reservations stay within the budget, and a record that reserves nothing is terminal
and has no directory.  While a record is quarantined an admission is refused and no run is recorded;
and a record is quarantined until its directory has been removed. -/
theorem run_admission (store : RunStore) (events : List Event) :
    let w := run store events
    (∀ id id' r r', w.journal.state.runs.get? id = some r → w.journal.state.runs.get? id' = some r' →
      r.state = .admitted → r'.state = .admitted → id = id') ∧
    w.journal.state.runs.total (·.reservedBytes) ≤ store.diskLimit ∧
    (∀ id r, w.journal.state.runs.get? id = some r → r.reservedBytes = 0 →
      r.state.Terminal ∧ w.journal.directories.get? id = none) ∧
    ∀ id, w.journal.Quarantined id →
      (∀ operationId requestDigest diskBytes answers, w.holder = none →
        (w.apply store (.admitRun operationId requestDigest diskBytes answers)).holder = none) ∧
      ∀ event, let w' := w.apply store event
        w'.journal.state.runs.keys ⊆ w.journal.state.runs.keys ∧
        (w'.journal.Quarantined id ∨ Released w.journal w'.journal id) := by
  intro w
  have sound : w.journal.Sound store := run_sound
  refine ⟨sound.single, sound.budget, sound.released, fun id quarantined => ⟨?_, fun event => ?_⟩⟩
  · exact fun _ _ _ _ free => admit_refused free quarantined
  · obtain ⟨outcome, keys⟩ :=
      Moves.quarantined (apply_advances (run_held events) event).moves quarantined
    exact ⟨keys, outcome⟩

end World

end Reproof.Execution

import Reproof.Repair.Statuses

/-! The writes of the repair journal that can fail, on the answers they are given. -/

namespace Reproof.Repair
open Library Contracts Execution.Wire
open Journal
variable (python : Interpreter) {s t : Journal} {document : Document} {identifier : String}

/-- The journal can write the job. -/
def Document.Fits (document : Document) : Prop :=
  ∃ raw ∈ canonical python document.json, raw.length ≤ 256 * 1024

/-- The jobs of `t` are those of `s` and a new one. -/
structure Journal.Adds (s t : Journal) (id : String) (body : Document) : Prop where
  new : id ∉ s.rows.keys
  added : ∃ row, row.body = body ∧
    ∀ other, t.rows.get? other = if other = id then some row else s.rows.get? other

/-- How `create` may leave a job that it does not return: ended, but for a failed write. -/
def Creation.Leaves (creation : Creation) (made inserted synced written : Answer) (body : Document) :
    Prop :=
  let document := creation.document ("repair_" ++ made.uuid) made.nowMs
  let after := document.close .quarantined (.str "repair_storage")
  inserted.fate = .done ∧ synced.ok = false ∧
    (body = after ∨ body = document ∧ (after.Fits python → ∃ applied, written.fate = .failed applied))

theorem get?_updateRow {after : Document} {release : Bool} {row : Row} {other : String}
    (found : s.rows.get? after.id = some row) :
    (s.updateRow after release).rows.get? other =
      if other = after.id then some ⟨if release then 0 else row.reserved, after⟩
      else s.rows.get? other := by
  rw [Journal.updateRow, found]
  exact Dict.get?_set

theorem run_put (after : Document) (written : Answer) (rest : List Answer) :
    match (put python after false).run (written :: rest) s with
    | (.done _, _, t) => t = s.updateRow after false
    | (.raised _, _, t) => t = s ∧ (after.Fits python → ∃ applied, written.fate = .failed applied)
    | (.crashed, _, _) => True := by
  have unfit (refused : ∀ raw ∈ canonical python after.json, ¬ raw.length ≤ 256 * 1024) :
      after.Fits python → ∃ applied, written.fate = .failed applied := by
    rintro ⟨raw, listed, within⟩
    exact absurd within (refused raw listed)
  cases encoded : canonical python after.json with
  | none =>
    rw [encoded] at unfit
    simpa [put, encoded, orFail, Prog.ofExcept] using unfit (fun _ h => by cases h)
  | some raw =>
    rw [encoded] at unfit
    by_cases fits : raw.length ≤ 256 * 1024
    · cases fate : written.fate with
      | done => simp [put, encoded, orFail, Prog.ofExcept, require, fits, fate, Prog.commit]
      | failed applied => simp [put, encoded, orFail, Prog.ofExcept, require, fits, fate, Prog.commit]
      | crashed applied =>
        cases applied <;>
          simp [put, encoded, orFail, Prog.ofExcept, require, fits, fate, Prog.commit]
    · simpa [put, encoded, orFail, Prog.ofExcept, require, fits] using
        unfit fun _ listed => Option.some.inj listed ▸ fits

/-- `INSERT INTO jobs`, undone when it fails. -/
theorem run_insert (identifier : String) (row : Row) (inserted : Answer) (rest : List Answer) :
    let result := Prog.run ((do
      require (identifier ∉ s.rows.keys) "repair_storage"
      let answer ← Prog.answer
      Prog.commit (Journal.setRow identifier row) (.repair "repair_storage") answer.fate :
        Step Unit).rescue fun failure => do
          discardDirectory
          Prog.raise failure) (inserted :: rest) s
    (∃ failure rest t, result = (.raised failure, rest, t) ∧ t.rows = s.rows) ∨
      (∃ rest t, result = (.crashed, rest, t)) ∨
      (identifier ∉ s.rows.keys ∧ inserted.fate = .done ∧
        result = (.done (), rest, s.setRow identifier row)) := by
  have discarded (answers : List Answer) (failure : Failure) :
      ∃ rest t, Prog.run (do
        discardDirectory
        Prog.raise failure : Step Unit) answers s = (.raised failure, rest, t) ∧ t.rows = s.rows := by
    rw [Prog.run_bind, discardDirectory, Prog.run_bind, Prog.run_answer_headD]
    simp only
    split_ifs
    · exact ⟨_, _, rfl, rfl⟩
    · exact ⟨_, _, rfl, rfl⟩
  intro result
  by_cases new : identifier ∉ s.rows.keys
  · cases fate : inserted.fate with
    | done => exact .inr (.inr ⟨new, rfl, by simp [result, require, new, fate, Prog.commit]⟩)
    | failed applied =>
      obtain ⟨left, t, eq, same⟩ := discarded rest (.repair "repair_storage")
      exact .inl ⟨_, left, t, by simpa [result, require, new, fate, Prog.commit] using eq, same⟩
    | crashed applied =>
      refine .inr (.inl ?_)
      cases applied <;> simp [result, require, new, fate, Prog.commit]
  · obtain ⟨left, t, eq, same⟩ := discarded (inserted :: rest) (.repair "repair_storage")
    exact .inl ⟨_, left, t, by simpa [result, require, new] using eq, same⟩

def Creation.Made (creation : Creation) (s : Journal) (made inserted synced written : Answer) :
    Outcome Failure Document × List Answer × Journal → Prop
  | (.done document, _, t) => document = creation.document ("repair_" ++ made.uuid) made.nowMs ∧
    s.Adds t document.id document
  | (.raised _, _, t) => t.rows = s.rows ∨ ∃ body, s.Adds t ("repair_" ++ made.uuid) body ∧
    creation.Leaves python made inserted synced written body
  | (.crashed, _, _) => True

theorem run_create {creation : Creation} {made inserted synced written : Answer}
    (absent : s.find creation = none) :
    creation.Made python s made inserted synced written
      ((create python creation).run [made, inserted, synced, written] s) := by
  refine Prog.run_ensure_bind (.inl rfl) fun _ => ?_
  rw [Prog.run_bind, Prog.run_read]
  refine Prog.run_ensure_bind (.inl rfl) fun _ => Prog.run_ensure_bind (.inl rfl) fun _ => ?_
  refine Prog.run_ensure_bind (.inl rfl) fun _ => Prog.run_ensure_bind (.inl rfl) fun _ => ?_
  rw [absent]
  refine Prog.run_ensure_bind (.inl rfl) fun _ => ?_
  cases ready : made.ok with
  | false =>
    have unmade : (files (.repair "repair_storage")).run [made, inserted, synced, written] s =
        (.raised (.repair "repair_storage"), [inserted, synced, written], s) := by
      simp [files, ready]
    rw [Prog.run_bind, unmade]
    exact .inl rfl
  | true =>
    have found : (files (.repair "repair_storage")).run [made, inserted, synced, written] s =
        (.done made, [inserted, synced, written], s) := by
      simp [files, ready]
    rw [Prog.run_bind, found]
    simp only
    rw [Prog.run_bind]
    cases canonical python (creation.document ("repair_" ++ made.uuid) made.nowMs).json with
    | none => exact .inl rfl
    | some raw =>
      simp only [orFail, Prog.ofExcept, Prog.run_done]
      rw [Prog.run_bind]
      obtain ⟨failure, rest, t, result, same⟩ | ⟨rest, t, result⟩ | ⟨new, landed, result⟩ := run_insert
        (s := s) ("repair_" ++ made.uuid) ⟨creation.reservationBytes,
          creation.document ("repair_" ++ made.uuid) made.nowMs⟩ inserted [synced, written]
      · rw [result]
        exact .inl same
      · rw [result]
        trivial
      · rw [result]
        simp only
        rw [Prog.run_bind, Prog.run_answer]
        simp only
        cases synced_ok : synced.ok with
        | true => exact ⟨rfl, new, _, rfl, fun _ => Dict.get?_set⟩
        | false =>
          rw [if_neg Bool.false_ne_true, Prog.run_bind]
          have wrote := run_put python ((creation.document ("repair_" ++ made.uuid)
            made.nowMs).close .quarantined (.str "repair_storage")) written [] (s := s.setRow ("repair_" ++ made.uuid) ⟨creation.reservationBytes,
              creation.document ("repair_" ++ made.uuid) made.nowMs⟩)
          revert wrote
          generalize Prog.run (put python _ false) _ _ = result
          intro wrote
          obtain ⟨outcome, rest, t⟩ := result
          cases outcome with
          | done =>
            refine .inr ⟨_, ⟨new, ⟨creation.reservationBytes, _⟩, rfl, fun other => ?_⟩, landed, synced_ok, .inl rfl⟩
            have found : (s.setRow ("repair_" ++ made.uuid) ⟨creation.reservationBytes,
                creation.document ("repair_" ++ made.uuid) made.nowMs⟩).rows.get?
                ("repair_" ++ made.uuid) = some _ := Dict.get?_set_self
            rw [wrote]
            refine (get?_updateRow found).trans ?_
            by_cases this : other = "repair_" ++ made.uuid
            · exact (if_pos this).trans (if_pos this).symm
            · exact ((if_neg this).trans (Dict.get?_set.trans (if_neg this))).trans (if_neg this).symm
          | raised failure =>
            refine .inr ⟨_, ⟨new, ⟨creation.reservationBytes, _⟩, rfl, fun _ => ?_⟩, landed, synced_ok,
              .inr ⟨rfl, wrote.2⟩⟩
            rw [wrote.1]
            exact Dict.get?_set
          | crashed => trivial
/-- The job that `finish` writes. -/
def Document.finished (document : Document) (status : Status) (reason result : Json) (nowMs : Int) :
    Document :=
  { (document.close status reason).touch nowMs with
    fields := ((document.close status reason).touch nowMs).fields.set "result" result }

theorem run_finish {row : Row} {status : Status} {reason result : Json} {clock written : Answer}
    (ready : s.ready = true) (named : isIdentifier identifier)
    (found : s.rows.get? identifier = some row) (active : ¬ row.body.status.Terminal)
    (ending : status.Terminal)
    (allowed : row.body.cancelRequested = false ∨ status = .cancelled ∨ status = .quarantined)
    (fits : (row.body.finished status reason result clock.nowMs).Fits python)
    (fate : ∀ applied, written.fate ≠ .failed applied) (failure : Failure) :
    ((finish python identifier status reason result none).run [clock, written] s).1 ≠
      .raised failure := by
  have got (answers : List Answer) :
      (get identifier).run answers s = (.done row.body, answers, s) := by
    simp [get, require, named, ready, found]
  have wrote := run_put python (s := s)
    (row.body.finished status reason result clock.nowMs) written []
  simp only [finish, require, Prog.run_bind, Prog.run_ensure, if_pos ending, got, if_pos active,
    if_pos allowed, Prog.run_answer, Prog.run_pure]
  unfold Document.finished at wrote fits
  revert wrote
  generalize Prog.run (put python _ false) [written] s = attempt
  intro wrote
  obtain ⟨outcome, rest, t⟩ := attempt
  cases outcome with
  | done => exact fun h => by cases h
  | raised =>
    obtain ⟨applied, failed⟩ := wrote.2 fits
    exact absurd failed (fate applied)
  | crashed => exact fun h => by cases h

end Reproof.Repair

import Reproof.Live.Transfer.Finalize

/-! Exactly when a finalization that raises leaves its upload finalizing. -/

namespace Reproof.Live.Transfer

open Library Contracts

/-- The upload is not left in the transient state; quarantined, it has a reason. -/
def Visible (uploads : Option Upload) : Prop := ∀ row ∈ uploads, row.state ≠ .finalizing

instance (uploads : Option Upload) : Decidable (Visible uploads) :=
  inferInstanceAs (Decidable (∀ row ∈ uploads, _))

/-- The transaction is committed. -/
def Reply.Lands (reply : Reply) : Prop := reply.failure = none ∨ reply.applied = true

instance (reply : Reply) : Decidable reply.Lands := inferInstanceAs (Decidable (_ ∨ _))

namespace Environment

variable (python : Interpreter) (env : Environment) (request : Request) (row : Upload)

/-- A failed publication is quarantined. -/
def Quarantines : Error × Bool → Prop
  | (.other, _) => False
  | (_, opened) => (opened = true → env.abort = none) ∧ (env.transaction .quarantined).Lands

/-- A finalizing upload leaves that state: it is hashed, and a differing digest is quarantined; the
host is still authorized; a failed publication is quarantined; after the publication the host is
still authorized, the retention has not expired, and the upload becomes pending. -/
def Leaves : Prop :=
  ∃ actual, env.hashStage python row = .ok actual ∧
    if actual ≠ row.expectedDigest then (env.transaction .quarantined).Lands
    else env.authorize .hashed = .ok () ∧
      match env.publication row with
      | .error failure => env.Quarantines failure
      | .ok () => env.authorize .afterPublish = .ok () ∧
        env.requireRetained row .afterPublish = .ok () ∧ (env.transaction .pending).Lands

/-- The checks are passed, the upload can be finalized, and its chunks are complete. -/
def Begins : Prop :=
  env.lock = none ∧ env.select = none ∧ env.precheck request row = .ok () ∧
    (row.state = .uploading ∨ row.state = .publicationPending) ∧
    (∃ reference, env.lookup = .ok reference ∧
      ¬ (row.state = .publicationPending ∧ reference = true ∧ env.stageExists = false)) ∧
    ∃ ranges, env.ranges = .ok ranges ∧ completeChunks 0 row.expectedSize ranges = true

/-- The upload is not finalizing already, and if it becomes so, then it leaves that state again. -/
def Recovers : Prop :=
  row.state ≠ .finalizing ∧ (env.Begins request row →
    ((env.transaction .finalizing).failure = none ∧ env.Leaves python row) ∨
      ((env.transaction .finalizing).failure ≠ none ∧
        (env.transaction .finalizing).applied = false))

variable {python : Interpreter} {env : Environment} {request : Request} {row : Upload}

/-- Where a call of this program raises, the upload is visible. -/
abbrev Ends {α : Type} (p : Call α) (uploads : Option Upload) : Prop :=
  p.wp (fun _ _ => True) (fun _ => Visible) (fun _ => True) uploads

theorem visible_some : Visible (some row) ↔ row.state ≠ .finalizing := by simp [Visible]

/-- A visible upload stays visible. -/
def Preserves (before after : Option Upload) : Prop := Visible before → Visible after

instance : Std.Refl Preserves := ⟨fun _ => id⟩

instance : IsTrans (Option Upload) Preserves := ⟨fun _ _ _ first second => second ∘ first⟩

/-- What a transaction leaves. -/
theorem commit_wp {write : Write} {update : Upload → Int → Upload} {uploads : Option Upload}
    {Q : Unit → Option Upload → Prop} {R : Error → Option Upload → Prop} {C : Option Upload → Prop} :
    (env.commit write update).wp Q R C uploads ↔
      match (env.transaction write).failure with
      | none => Q () (uploads.map (update · (env.transaction write).nowMs))
      | some e => R e (if (env.transaction write).applied = true then
          uploads.map (update · (env.transaction write).nowMs) else uploads) := by
  rw [commit, Prog.wp_write]
  cases (env.transaction write).failure <;> rfl

section Preserving

variable {α : Type} {update : Upload → Int → Upload} {write : Write}

theorem commit_preserves (visible : ∀ row now, row.state ≠ .finalizing →
    (update row now).state ≠ .finalizing) : Prog.Guarantees Preserves (env.commit write update) := by
  intro uploads
  have updated (now : Int) : Preserves uploads (uploads.map (update · now)) := by
    intro before row mem
    obtain ⟨old, found, rfl⟩ := Option.mem_map.mp mem
    exact visible old now (before old found)
  rw [commit_wp]
  split
  · exact updated _
  · split
    · exact updated _
    · exact id

theorem quarantine_state {reason : String} {now : Int} (visible : row.state ≠ .tombstoned) :
    (row.quarantine reason now).state = .quarantined := by
  rw [Upload.quarantine, if_neg visible]

theorem quarantine_visible {reason : String} {now : Int} :
    (row.quarantine reason now).state ≠ .finalizing := by
  by_cases gone : row.state = .tombstoned
  · rw [Upload.quarantine, if_pos gone, gone]
    exact nofun
  · rw [quarantine_state gone]
    exact nofun

theorem quarantine_preserves {reason : String} :
    Prog.Guarantees Preserves (env.quarantine reason) :=
  commit_preserves fun _ _ _ => quarantine_visible

theorem move_preserves {before after : UploadState} {ordinary : after ≠ .quarantined}
    (elsewhere : after ≠ .finalizing) :
    Prog.Guarantees Preserves (env.move write before after ordinary) := by
  refine commit_preserves fun row now visible => ?_
  split
  · exact elsewhere
  · exact visible

theorem status_preserves : Prog.Guarantees Preserves (env.status request) :=
  .bind .read fun _ => .bind .ofExcept fun _ => .ofExcept

theorem resume_preserves : Prog.Guarantees Preserves (env.resume request) :=
  .bind .ofExcept fun _ => .bind .ofExcept fun _ => .bind (move_preserves nofun)
    fun _ => status_preserves

theorem removeStage_preserves : Prog.Guarantees Preserves env.removeStage := by
  rw [removeStage]
  split
  · exact .pure
  · exact .bind quarantine_preserves fun _ => .raise
  · exact .raise

theorem retainCharge_preserves : Prog.Guarantees Preserves env.retainCharge := by
  rw [retainCharge]
  split
  · exact .pure
  · exact .bind quarantine_preserves fun _ => .raise
  · exact .raise

theorem cleanUp_preserves : Prog.Guarantees Preserves (env.cleanUp request) :=
  .bind removeStage_preserves fun _ => .bind retainCharge_preserves fun _ => .bind .ofExcept
    fun _ => .bind (move_preserves nofun) fun _ => status_preserves

theorem ends_of_preserves {p : Call α} (preserves : Prog.Guarantees Preserves p)
    {uploads : Option Upload} (visible : Visible uploads) : Ends p uploads :=
  Prog.wp_mono (preserves uploads) (fun _ _ _ => trivial) (fun _ _ kept => kept visible)
    fun _ _ => trivial

end Preserving

section Stuck

variable {α β : Type} {uploads : Option Upload} (stuck : ¬ Visible uploads)

include stuck

theorem ofExcept_bind_ends {x : Except Error β} {f : β → Call α} :
    Ends (Prog.ofExcept x >>= f) uploads ↔ ∃ b, x = .ok b ∧ Ends (f b) uploads := by
  simp only [Ends, Prog.wp_bind, Prog.wp_ofExcept]
  cases x with
  | ok b => simp
  | error e => simp [stuck]

theorem check_bind_ends {x : Except Error Unit} {f : Unit → Call α} :
    Ends (Prog.ofExcept x >>= f) uploads ↔ x = .ok () ∧ Ends (f ()) uploads :=
  (ofExcept_bind_ends stuck).trans ⟨fun ⟨(), ok, ends⟩ => ⟨ok, ends⟩, fun h => ⟨(), h⟩⟩

/-- A transaction that takes a stuck upload out of its state. -/
theorem commit_bind_ends {write : Write} {update : Upload → Int → Upload} {f : Unit → Call α}
    (escapes : ∀ now, Visible (uploads.map (update · now)))
    (rest : ∀ now, Ends (f ()) (uploads.map (update · now))) :
    Ends (env.commit write update >>= f) uploads ↔ (env.transaction write).Lands := by
  simp only [Ends, Prog.wp_bind, commit_wp, Reply.Lands]
  cases (env.transaction write).failure with
  | none => simpa using rest _
  | some e =>
    cases (env.transaction write).applied with
    | true => simpa using escapes _
    | false => simpa using stuck

theorem quarantine_raise_wp {reason : String} {e : Error} {Q : α → Option Upload → Prop} :
    (env.quarantine reason >>= fun _ => Prog.raise e).wp Q (fun _ => Visible) (fun _ => True)
      uploads ↔ (env.transaction .quarantined).Lands := by
  have escapes (now : Int) : Visible (uploads.map (Upload.quarantine · reason now)) := by
    intro row mem
    obtain ⟨old, _, rfl⟩ := Option.mem_map.mp mem
    exact quarantine_visible
  simp only [Prog.wp_bind, quarantine, commit_wp, Prog.wp_raise, Reply.Lands]
  cases (env.transaction .quarantined).failure with
  | none => simpa using escapes _
  | some e =>
    cases (env.transaction .quarantined).applied with
    | true => simpa using escapes _
    | false => simpa using stuck

theorem abort_wp {opened : Bool} {reason : String} {e : Error} {Q : α → Option Upload → Prop} :
    (do
      Prog.ofExcept (if opened then call env.abort else .ok ())
      env.quarantine reason
      Prog.raise e : Call α).wp Q (fun _ => Visible) (fun _ => True) uploads ↔
      (opened = true → env.abort = none) ∧ (env.transaction .quarantined).Lands := by
  rw [Prog.wp_bind, Prog.wp_ofExcept]
  simp only [quarantine_raise_wp stuck]
  cases opened with
  | false => simp
  | true => cases env.abort <;> simp [call, stuck]

theorem publishBlob_wp {Q : Unit → Option Upload → Prop} :
    (env.publishBlob row).wp Q (fun _ => Visible) (fun _ => True) uploads ↔
      match env.publication row with
      | .error failure => env.Quarantines failure
      | .ok () => Q () uploads := by
  rw [publishBlob]
  cases env.publication row with
  | ok u => rfl
  | error failure =>
    obtain ⟨e, opened⟩ := failure
    cases e with
    | other => exact ⟨stuck, False.elim⟩
    | live code message status => exact abort_wp stuck
    | evidence => exact abort_wp stuck
    | budget => exact abort_wp stuck
    | os => exact abort_wp stuck

end Stuck

/-- A finalizing upload is visible after a call that raises iff it leaves its state. -/
theorem publishStage_ends {current : Upload} (state : current.state = .finalizing) :
    Ends (env.publishStage python request row) (some current) ↔ env.Leaves python row := by
  have stuck : ¬ Visible (some current) := fun visible => visible_some.mp visible state
  rw [publishStage, ofExcept_bind_ends stuck, Leaves]
  refine exists_congr fun actual => and_congr_right fun _ => ?_
  split
  · exact quarantine_raise_wp stuck
  · rw [check_bind_ends stuck]
    refine and_congr_right fun _ => ?_
    rw [Ends, Prog.wp_bind, publishBlob_wp stuck]
    cases env.publication row with
    | error failure => rfl
    | ok u =>
      have pending (now : Int) : Visible ((some current).map fun row =>
          if row.state = .finalizing then row.become .publicationPending (fun h => by cases h) now else row) := by
        rw [Option.map_some, if_pos state, visible_some]
        exact fun h => by cases h
      refine (check_bind_ends stuck).trans (and_congr_right fun _ => ?_)
      refine (check_bind_ends stuck).trans (and_congr_right fun _ => ?_)
      exact commit_bind_ends stuck pending
        fun now => ends_of_preserves cleanUp_preserves (pending now)

theorem begin_ends (state : row.state = .uploading ∨ row.state = .publicationPending) :
    Ends (env.begin python request row) (some row) ↔
      ((∃ ranges, env.ranges = .ok ranges ∧ completeChunks 0 row.expectedSize ranges = true) →
        ((env.transaction .finalizing).failure = none ∧ env.Leaves python row) ∨
          ((env.transaction .finalizing).failure ≠ none ∧
            (env.transaction .finalizing).applied = false)) := by
  have visible : Visible (some row) := by
    rw [visible_some]
    obtain state | state := state <;> rw [state] <;> exact fun h => by cases h
  simp only [Ends, begin, Prog.wp_bind, Prog.wp_ofExcept, Prog.wp_ensure, commit_wp,
    Option.map_some, if_pos state]
  cases env.ranges with
  | error e => simp [visible]
  | ok ranges =>
    by_cases complete : completeChunks 0 row.expectedSize ranges = true
    · cases (env.transaction .finalizing).failure with
      | none =>
        have stage := @publishStage_ends python env request row
          (row.become .finalizing (fun h => by cases h) (env.transaction .finalizing).nowMs) rfl
        simpa [complete] using stage
      | some e =>
        cases (env.transaction .finalizing).applied with
        | true => simp [complete, visible_some, Upload.become]
        | false => simp [complete, visible]
    · simp [complete, visible]

theorem call_eq_ok {failure : Option Error} : call failure = .ok () ↔ failure = none := by
  cases failure <;> simp [call]

theorem check_bind_visible {α : Type} {x : Except Error Unit} {f : Unit → Call α}
    {uploads : Option Upload} (visible : Visible uploads) :
    Ends (Prog.ofExcept x >>= f) uploads ↔ (x = .ok () → Ends (f ()) uploads) := by
  simp only [Ends, Prog.wp_bind, Prog.wp_ofExcept]
  exact ⟨fun h => h.1 (), fun h => ⟨fun _ => h, fun _ _ => visible⟩⟩

theorem proceed_ends (visible : row.state ≠ .finalizing) :
    Ends (env.proceed python request row) (some row) ↔
    ((row.state = .uploading ∨ row.state = .publicationPending) ∧
        (∃ reference, env.lookup = .ok reference ∧
          ¬ (row.state = .publicationPending ∧ reference = true ∧ env.stageExists = false)) ∧
        (∃ ranges, env.ranges = .ok ranges ∧ completeChunks 0 row.expectedSize ranges = true) →
      ((env.transaction .finalizing).failure = none ∧ env.Leaves python row) ∨
        ((env.transaction .finalizing).failure ≠ none ∧
          (env.transaction .finalizing).applied = false)) := by
  rw [proceed]
  have seen := visible_some.mpr visible
  cases state : row.state with
  | uploading =>
    have begins := @begin_ends python env request row (.inl state)
    cases env.lookup with
    | error e => simpa [Ends, Prog.ofExcept] using seen
    | ok reference => simpa [Ends] using begins
  | publicationPending =>
    have begins := @begin_ends python env request row (.inr state)
    cases env.lookup with
    | error e => simpa [Ends, Prog.ofExcept] using seen
    | ok reference =>
      by_cases gone : reference = true ∧ env.stageExists = false
      · have resumes : Ends (env.resume request) (some row) := ends_of_preserves resume_preserves seen
        simpa [Ends, gone] using resumes
      · have inner : Ends (do
            let reference ← Prog.ofExcept (.ok reference)
            if reference = true ∧ env.stageExists = false then env.resume request
            else env.begin python request row) (some row) ↔
            Ends (env.begin python request row) (some row) := by
          simp only [Ends, Prog.ofExcept, Prog.wp_bind, Prog.wp_done, if_neg gone]
        refine inner.trans (begins.trans ⟨fun h all => h all.2.2, fun h complete => ?_⟩)
        exact h ⟨.inr rfl, ⟨reference, rfl, fun both => gone both.2⟩, complete⟩
  | published =>
    have reads : Ends (env.status request) (some row) := ends_of_preserves status_preserves seen
    simpa [Ends] using reads
  | finalizing => exact absurd state visible
  | quarantined => simpa [Ends] using seen
  | tombstoned => simpa [Ends] using seen

theorem finalize_ends : Ends (env.finalize python request) (some row) ↔
    env.Recovers python request row := by
  by_cases visible : row.state = .finalizing
  · have stuck : ¬ Visible (some row) := fun seen => visible_some.mp seen visible
    have inactive : ¬ Ends (env.proceed python request row) (some row) := by
      rw [proceed, visible]
      exact stuck
    refine iff_of_false (fun ends => ?_) fun recovers => recovers.1 visible
    obtain ⟨_, ends⟩ := (check_bind_ends stuck).mp ends
    obtain ⟨_, ends⟩ := (check_bind_ends stuck).mp ends
    exact inactive ((check_bind_ends stuck).mp ends).2
  · have seen := visible_some.mpr visible
    have checked : Ends (env.finalize python request) (some row) ↔ (call env.lock = .ok () →
        call env.select = .ok () → env.precheck request row = .ok () →
        Ends (env.proceed python request row) (some row)) :=
      (check_bind_visible seen).trans (imp_congr_right fun _ => (check_bind_visible seen).trans
        (imp_congr_right fun _ => check_bind_visible seen))
    rw [checked, proceed_ends visible, call_eq_ok, call_eq_ok]
    constructor
    · intro h
      exact ⟨visible, fun ⟨lock, select, passed, state, looked, complete⟩ =>
        h lock select passed ⟨state, looked, complete⟩⟩
    · rintro ⟨_, h⟩ lock select passed ⟨state, looked, complete⟩
      exact h ⟨lock, select, passed, state, looked, complete⟩

/-- A call of `finalize` that raises leaves the upload visible exactly when the upload recovers. -/
theorem finalize_visible_iff (python : Interpreter) (env : Environment) (request : Request)
    (row : Upload) :
    (∀ e answers after, (env.finalize python request).run [] (some row) =
        (.raised e, answers, after) → Visible after) ↔ env.Recovers python request row := by
  rw [← finalize_ends, Ends, @Prog.wp_iff_run _ _ _ _ _ _ _ _ _ _ _ []]
  generalize (env.finalize python request).run [] (some row) = result
  obtain ⟨outcome, answers, after⟩ := result
  cases outcome with
  | done value => exact ⟨fun _ => trivial, fun _ _ _ _ h => nomatch h⟩
  | raised e =>
    exact ⟨fun h => h e answers after rfl, fun visible _ _ _ h => by cases h; exact visible⟩
  | crashed => exact ⟨fun _ => trivial, fun _ _ _ _ h => nomatch h⟩

/-- A host whose authorization is revoked while its upload is hashed. -/
def revoked : Environment where
  lock := none
  select := none
  authorizer := some fun site => .ok (site = .entry)
  clock _ := .ok 1
  lookup := .ok false
  stageExists := true
  ranges := .ok [(0, 2)]
  lstat := .ok (true, 2)
  hashed := [utf8 "hi"]
  hashReads _ := none
  beginBlob := none
  copied := [utf8 "hi"]
  copyReads _ := none
  writes _ := none
  publish := none
  publishCloses := true
  abort := none
  transaction _ := ⟨1, none, false⟩
  unlink := none
  charge _ := none
  statusRead := none

/-- A complete upload. -/
def uploaded : Upload where
  projectId := "project"
  host := ⟨"host", 1, "incarnation"⟩
  uploadGeneration := 1
  expectedSize := 2
  expectedDigest := "8f434346648f6b96df89dda901c5176b10a6d83961dd3c1ac88b59b2dc327aa4"
  retainUntilMs := 2
  state := .uploading
  reason := none
  updatedMs := 0
  reasoned := nofun

theorem revoked_stranded : ¬ ∀ (python : Interpreter) (env : Environment) (request : Request)
    (row : Upload), row.state ≠ .finalizing → ∀ e answers after,
      (env.finalize python request).run [] (some row) = (.raised e, answers, after) →
      Visible after := by
  intro claim
  have visible := claim ⟨id, id, id, String.ofList, 8, fun _ => "", fun _ _ => ""⟩ revoked
    ⟨1, ⟨"host", 1, "incarnation"⟩, none⟩ uploaded (fun h => by cases h)
    (.live "unauthorized" "Artifact authorization failed" 401) []
    (some (uploaded.become .finalizing (fun h => by cases h) 1)) (by decide +kernel)
  exact visible_some.mp visible rfl

end Environment

end Reproof.Live.Transfer

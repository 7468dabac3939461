import Reproof.Live.Frames.Recovery

/-! Opening a spool, for the first time or again. -/

namespace Reproof.Live.Frames

open Contracts Library

variable {python : Interpreter} {marks : List Int} {s t : Spool} {opening : Opening} {bounds : Bounds}

/-- A reservation changes nothing but what is spent. -/
theorem same_spent {budgeted : Spool → Except Failure (Storage.Database × String)} :
    Prog.Guarantees Same (do
      let spool ← Prog.read
      let (budget, reservationId) ← Prog.ofExcept (budgeted spool)
      FrameSpool.spend fun _ => budget
      return reservationId : Control String) := by
  refine Prog.Guarantees.bind Prog.Guarantees.read fun spool => ?_
  refine Prog.Guarantees.bind Prog.Guarantees.ofExcept fun spent => ?_
  exact Prog.Guarantees.bind same_spend fun _ => Prog.Guarantees.pure

theorem same_reserve {category key : String} {amount : Nat} :
    Prog.Guarantees Same (opening.reserve category key amount) := by
  unfold Opening.reserve
  exact Prog.Guarantees.bind reads_call.guarantees fun w => same_spent

theorem same_abandon {reservations : List String} : Prog.Guarantees Same (Opening.abandon reservations) := by
  unfold Opening.abandon
  refine Prog.Guarantees.rescue ?_ fun _ => Prog.Guarantees.pure
  refine Prog.Guarantees.bind reads_call.guarantees fun _ => Prog.Guarantees.bind Prog.Guarantees.read fun _ => ?_
  refine Prog.Guarantees.bind reads_check.guarantees fun _ => ?_
  intro s
  rw [Prog.wp_bind, Prog.wp_answer]
  intro w
  rw [Prog.wp_bind]
  have gone : Same s { s with created := false } := ⟨rfl, rfl, rfl, rfl⟩
  refine Prog.wp_commit ?_ (refl_of _ s) ⟨refl_of _ s, gone⟩
  have rest : Prog.Guarantees Same (do
      let _ ← call .os
      FrameSpool.releaseOrphans reservations) :=
    Prog.Guarantees.bind reads_call.guarantees fun _ => same_releaseOrphans
  exact rest.from_state gone

/-- The tables are made with the bounds of the spool, and there are no frames. -/
theorem wp_initializeTables (marks : List Int) {source journal : String} (sound : Sound python s)
    (absent : s.spoolMeta = none) :
    (opening.initializeTables bounds source journal).wp
      (fun _ t => (Sound python t ∧ Evolves marks s t) ∧ ∃ values ∈ t.spoolMeta,
        values.maxFrames = bounds.maxFrames ∧ values.maxBytes = bounds.maxBytes)
      (fun _ t => t = s) (fun t => Sound python t ∧ Evolves marks s t) s := by
  have rows := sound.blank absent
  unfold Opening.initializeTables
  rw [Prog.wp_bind]
  refine wp_call (fun _ => ?_) rfl ⟨sound, .refl⟩
  have kept : ∀ values : Meta, Sound python { s with spoolMeta := some values } ∧
      Evolves marks s { s with spoolMeta := some values } := by
    intro values
    refine ⟨⟨sound.known, ?_, (fun none => by cases none), sound.fits⟩, ⟨le_rfl, le_rfl⟩, ?_,
      fun row mem => .inl ⟨row, mem, rfl, rfl⟩, fun row mem _ _ => ⟨mem, fun view viewed => ⟨view, viewed, rfl⟩⟩⟩
    · intro other _
      change s.frames.rows.length ≤ _ ∧ (s.frames.rows.map (·.size)).sum ≤ _
      simp [rows]
    · intro other mem
      rw [absent] at mem
      cases mem
  exact wp_transaction ⟨kept _, _, rfl, rfl, rfl⟩ rfl ⟨⟨sound, .refl⟩, kept _⟩

theorem wp_openFresh {issuer : Uuid} (sound : Sound python s) (absent : s.spoolMeta = none) :
    (opening.openFresh bounds issuer).wp
      (fun self t => (Sound python t ∧ Evolves marks s t) ∧ Fitting self t)
      (fun _ t => Sound python t ∧ Evolves marks s t) (fun t => Sound python t ∧ Evolves marks s t) s := by
  have kept : ∀ t, Same s t → Sound python t ∧ Evolves marks s t := fun t h => h.keeps marks sound
  -- giving back what has been reserved
  have back : ∀ {α : Type} (reservations : List String) (e : Failure) (Q : α → Spool → Prop) (t : Spool), Same s t →
      (do
        Opening.abandon reservations
        (.raise e : Control α)).wp Q (fun _ t => Sound python t ∧ Evolves marks s t)
        (fun t => Sound python t ∧ Evolves marks s t) t := by
    intro α reservations e Q t same
    rw [Prog.wp_bind]
    exact Prog.wp_mono (same_abandon.from_state same) (fun _ u h => kept u h) (fun _ u h => kept u h)
      fun u h => kept u h
  unfold Opening.openFresh
  rw [Prog.wp_bind, Prog.wp_rescue]
  refine Prog.wp_mono (same_reserve s) ?_ (fun e t h => back _ e _ t h) fun t h => kept t h
  intro source t same
  rw [Prog.wp_bind, Prog.wp_rescue]
  refine Prog.wp_mono (same_reserve.from_state same) ?_ (fun e u h => back _ e _ u h) fun u h => kept u h
  intro journal u same
  rw [Prog.wp_bind, Prog.wp_rescue]
  rw [Prog.wp_bind, Prog.wp_answer]
  intro w
  have step : Same u { u with created := true } := ⟨rfl, rfl, rfl, rfl⟩
  have made := trans_of Same same step
  rw [Prog.wp_bind]
  refine Prog.wp_commit ?_ (back _ _ _ u same) ⟨kept u same, kept _ made⟩
  obtain ⟨sound, evolves⟩ := kept _ made
  refine Prog.wp_mono (wp_initializeTables marks sound (made.spoolMeta.trans absent)) ?_ ?_ ?_
  · rintro _ v ⟨⟨sound, evolves'⟩, fits⟩
    exact ⟨⟨sound, evolves.trans evolves'⟩, fits⟩
  · rintro e v rfl
    exact back _ _ _ _ made
  · rintro v ⟨sound, evolves'⟩
    exact ⟨sound, evolves.trans evolves'⟩

theorem wp_adopt {issuer : Uuid} {values : Meta} (mem : values ∈ s.spoolMeta) : (opening.adopt bounds issuer values).wp
    (fun self t => t = s ∧ Fitting self t ∧ self.sourceReservationId = values.sourceReservation) (fun _ t => t = s)
    (fun t => t = s) s := by
  unfold Opening.adopt
  rw [Prog.wp_bind]
  refine wp_call (fun _ => ?_) rfl rfl
  rw [Prog.wp_bind]
  refine wp_check (fun same => ?_) rfl
  have fits : values.maxFrames = bounds.maxFrames ∧ values.maxBytes = bounds.maxBytes := same.2.2
  rw [Prog.wp_bind]
  refine wp_call (fun _ => ?_) rfl rfl
  rw [Prog.wp_bind, Prog.wp_read, Prog.wp_bind]
  refine wp_check (fun _ => ?_) rfl
  rw [Prog.wp_bind]
  refine wp_call (fun _ => ?_) rfl rfl
  rw [Prog.wp_bind, Prog.wp_read]
  dsimp only
  split
  · rw [Prog.wp_bind]
    exact wp_call (fun _ => ⟨rfl, ⟨values, mem, fits⟩, rfl⟩) rfl rfl
  · rw [Prog.wp_bind]
    refine reads_bookkeepingBytes.wp_any (fun _ => ?_) (fun _ => rfl) rfl
    rw [Prog.wp_bind]
    refine wp_check (fun _ => ?_) rfl
    rw [Prog.wp_bind]
    exact reads_assertRetiredEmpty.wp_any (fun _ => ⟨rfl, ⟨values, mem, fits⟩, rfl⟩) (fun _ => rfl) rfl

/-- However a spool is opened, it has the bounds that it was made with. -/
theorem wp_openSpool (marks : List Int) (opening : Opening) (sound : Sound python s) : opening.openSpool.wp
    (fun self t => (Sound python t ∧ Evolves marks s t) ∧ Fitting self t)
    (fun _ t => Sound python t ∧ Evolves marks s t) (fun t => Sound python t ∧ Evolves marks s t) s := by
  have start : Sound python s ∧ Evolves marks s s := ⟨sound, .refl⟩
  unfold Opening.openSpool
  rw [Prog.wp_bind]
  refine wp_check (fun _ => ?_) start
  rw [Prog.wp_bind, Prog.wp_ofExcept]
  refine ⟨fun bounds _ => ?_, fun _ _ => start⟩
  rw [Prog.wp_bind]
  refine wp_call (fun w => ?_) start start
  rw [Prog.wp_bind, Prog.wp_read, Prog.wp_bind]
  refine wp_check (fun _ => ?_) start
  have adopted : ∀ bounds values, values ∈ s.spoolMeta → (opening.adopt bounds w.uuid values).wp
      (fun self t => (Sound python t ∧ Evolves marks s t) ∧ Fitting self t)
      (fun _ t => Sound python t ∧ Evolves marks s t) (fun t => Sound python t ∧ Evolves marks s t) s := by
    intro bounds values mem
    refine Prog.wp_mono (wp_adopt mem) ?_ ?_ ?_
    · rintro self t ⟨rfl, fits, -⟩
      exact ⟨start, fits⟩
    · rintro e t rfl
      exact start
    · rintro t rfl
      exact start
  split
  · rename_i absent
    rw [Prog.wp_bind]
    exact wp_check (fun _ => wp_openFresh sound absent) start
  · rename_i values found
    split
    · rw [Prog.wp_bind, Prog.wp_ofExcept]
      exact ⟨fun saved _ => adopted saved values found, fun _ _ => start⟩
    · exact adopted bounds values found

theorem same_giveBack {reservations : List String} :
    Prog.Guarantees Same (Opening.retireUninitialized.giveBack reservations) := by
  induction reservations with
  | nil => exact Prog.Guarantees.pure
  | cons reservationId reservations ih => exact Prog.Guarantees.bind same_spend fun _ => ih

theorem same_retireUninitialized (opening : Opening) : Prog.Guarantees Same opening.retireUninitialized :=
  Prog.Guarantees.bind reads_check.guarantees fun _ => Prog.Guarantees.bind Prog.Guarantees.ofExcept fun _ =>
    Prog.Guarantees.bind reads_call.guarantees fun _ => Prog.Guarantees.bind Prog.Guarantees.read fun _ =>
      Prog.Guarantees.bind reads_check.guarantees fun _ => Prog.Guarantees.bind Prog.Guarantees.ofExcept fun _ =>
        Prog.Guarantees.bind Prog.Guarantees.ofExcept fun _ =>
          Prog.Guarantees.bind same_giveBack fun _ => Prog.Guarantees.pure

end Reproof.Live.Frames

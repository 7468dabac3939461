import Reproof.Live.Frames.Openings

/-! Whole histories of a spool: it is opened and called, its process ends at any durable step, and the power may be
cut in between. -/

namespace Reproof.Live.Frames

open Contracts Library

inductive Call
  | stage (frameSequence acquisitionSequence : Int) (body : Bytes) (digest : String) (value : Json)
  | read (token : SpoolToken)
  | readMetadata (token : SpoolToken)
  | markReleasable (tokens : List SpoolToken)
  | releaseMarked (tokens : List SpoolToken)
  | release (tokens : List SpoolToken)
  | recover (durableProof : Bool)
  | finalcleanup (budget : Storage.DiskBudget) (durableProof : Bool)

/-- The frames that a call marks as durable elsewhere. -/
def Call.marks : Call → List Int
  | .markReleasable tokens | .release tokens => tokens.map (·.frameSequence)
  | _ => []

def Call.exec (python : Interpreter) (self : FrameSpool) : Call → Control Unit
  | .stage frameSequence acquisitionSequence body digest value => do
    let _ ← self.stage python frameSequence acquisitionSequence body digest value
  | .read token => do
    let _ ← self.read python token
  | .readMetadata token => do
    let _ ← self.readMetadata python token
  | .markReleasable tokens => do
    let _ ← self.markReleasable python tokens
  | .releaseMarked tokens => do
    let _ ← self.releaseMarked python tokens
  | .release tokens => do
    let _ ← self.release python tokens
  | .recover durableProof => self.recover python durableProof
  | .finalcleanup budget durableProof => do
    let _ ← self.finalcleanup python budget durableProof

structure World where
  spool : Spool
  handle : Option FrameSpool

inductive Event
  | opened (opening : Opening) (answers : List Answer)
  | retired (opening : Opening) (answers : List Answer)
  | called (call : Call) (answers : List Answer)
  | closed
  | cut (past : Nat) (rest : FileName → Bytes)

def Event.marks : Event → List Int
  | .called call _ => call.marks
  | _ => []

namespace World

/-- Nothing is there but a budget. -/
def initial (budget : Storage.Database) : World :=
  { spool := ⟨false, none, ⟨0, 0, 0, 0⟩, .empty, .empty, budget⟩
    handle := none }

/-- The handle of an outcome. -/
def handleOf : Outcome Failure FrameSpool → Option FrameSpool
  | .done self => some self
  | _ => none

variable (python : Interpreter)

def keepHandle (call : Call) (outcome : Outcome Failure Unit) (self : FrameSpool) : Option FrameSpool :=
  match call, outcome with
  | .finalcleanup _ _, .raised _ => some self
  | .finalcleanup _ _, _ => none
  | _, .crashed => none
  | _, _ => some self

/-- One writer at a time has the lock. -/
def step (w : World) : Event → World
  | .opened opening answers =>
    match w.handle with
    | some _ => w
    | none =>
      let result := opening.openSpool.run answers w.spool
      ⟨result.2.2, handleOf result.1⟩
  | .retired opening answers =>
    match w.handle with
    | some _ => w
    | none => ⟨(opening.retireUninitialized.run answers w.spool).2.2, none⟩
  | .called call answers =>
    match w.handle with
    | none => w
    | some self =>
      let result := (call.exec python self).run answers w.spool
      ⟨result.2.2, keepHandle call result.1 self⟩
  | .closed => ⟨w.spool, none⟩
  | .cut past rest => ⟨{ w.spool with disk := w.spool.disk.cut past rest }, none⟩

def run (w : World) (events : List Event) : World := events.foldl (step python) w

end World

section Steps

variable {python : Interpreter} {marks : List Int} {s t : Spool} {self : FrameSpool} {w : World}

theorem reads_read {token : SpoolToken} : Reads (self.read python token) :=
  Prog.Guarantees.bind reads_rowForToken fun _ => reads_readRowFile

theorem reads_readMetadata {token : SpoolToken} : Reads (self.readMetadata python token) := by
  refine Prog.Guarantees.bind reads_rowForToken fun row => Prog.Guarantees.bind Prog.Guarantees.ofExcept fun value => ?_
  split
  · exact Prog.Guarantees.bind reads_check fun _ => Prog.Guarantees.pure
  · exact Prog.Guarantees.raise

theorem kept_releaseMarked {tokens : List SpoolToken} : Kept python marks (self.releaseMarked python tokens) := by
  refine Prog.Guarantees.bind reads_tokens.guarantees fun _ => kept_of_sound fun s sound => ?_
  have start : Sound python s ∧ Evolves marks s s := ⟨sound, .refl⟩
  rw [Prog.wp_bind]
  refine Prog.wp_mono wp_rowsForTokens ?_ ?_ ?_
  · rintro rows t ⟨rfl, all⟩
    dsimp only
    rw [Prog.wp_bind]
    refine wp_check (fun _ => ?_) start
    rw [Prog.wp_bind]
    refine reads_proofForTokens.wp_any (fun supplied => ?_) (fun _ => start) start
    rw [Prog.wp_bind]
    refine wp_check (fun _ => ?_) start
    exact Prog.wp_mono (wp_releaseRows marks sound (known_of_state all)) (fun _ _ h => h.1) (fun _ _ h => h.1)
      fun _ h => h.1
  · rintro e t rfl
    exact start
  · rintro t rfl
    exact start

theorem kept_exec (call : Call) (sound : Sound python s) (fitting : Fitting self s) :
    (call.exec python self).wp (fun _ t => Sound python t ∧ Evolves call.marks s t)
      (fun _ t => Sound python t ∧ Evolves call.marks s t) (fun t => Sound python t ∧ Evolves call.marks s t) s := by
  have ends : ∀ {α : Type} {p : Control α}, Kept python call.marks p →
      (p >>= fun _ => pure ()).wp (fun _ t => Sound python t ∧ Evolves call.marks s t)
        (fun _ t => Sound python t ∧ Evolves call.marks s t) (fun t => Sound python t ∧ Evolves call.marks s t) s := by
    intro α p h
    rw [Prog.wp_bind]
    exact wp_kept h ⟨sound, .refl⟩
  cases call with
  | stage frameSequence acquisitionSequence body digest value =>
    unfold Call.exec
    rw [Prog.wp_bind]
    exact Prog.wp_mono (wp_stage _ _ _ _ _ _ sound fitting) (fun _ _ h => h.1) (fun _ _ h => h) fun _ h => h
  | read token => exact ends reads_read.guarantees
  | readMetadata token => exact ends reads_readMetadata.guarantees
  | markReleasable tokens => exact ends (kept_markReleasable (List.Subset.refl _))
  | releaseMarked tokens => exact ends kept_releaseMarked
  | release tokens => exact ends (kept_release (List.Subset.refl _))
  | recover durableProof => exact wp_kept kept_recover ⟨sound, .refl⟩
  | finalcleanup budget durableProof => exact ends kept_finalcleanup

/-- What a power cut leaves is sound, and the files of active frames are what they were. -/
theorem Sound.cut (marks : List Int) (past : Nat) (rest : FileName → Bytes) (sound : Sound python s) :
    Sound python { s with disk := s.disk.cut past rest } ∧ Evolves marks s { s with disk := s.disk.cut past rest } := by
  have torn : ∀ view, Fits python s.frames view → Fits python s.frames (Disk.tear rest view) := by
    intro view fits
    refine ⟨?_, ?_, ?_⟩
    · intro name file found
      rw [Disk.get?_tear, Option.map_eq_some_iff] at found
      obtain ⟨old, found, rfl⟩ := found
      obtain ⟨row, mem, small, owns⟩ := fits.owned name old found
      refine ⟨row, mem, Disk.File.tear_length_le.trans small, owns.imp id ?_⟩
      rintro ⟨named, stable⟩
      exact ⟨named, by rw [Disk.File.tear_stable stable, stable]⟩
    · intro row mem
      rw [Disk.get?_tear, Disk.get?_tear, Option.map_eq_none_iff, Option.map_eq_none_iff]
      exact fits.alone row mem
    · intro row mem active
      obtain ⟨body, found, whole⟩ := (fits.whole row mem active).there
      refine ⟨body, ?_, whole⟩
      rw [Disk.get?_tear, found, Option.map_some, Disk.File.tear_stable rfl]
  refine ⟨⟨sound.known, sound.bounded, sound.blank, Disk.Always.cut sound.fits torn⟩, ⟨le_rfl, le_rfl⟩,
    fun values mem => ⟨values, mem, rfl, rfl, id⟩, fun row mem => .inl ⟨row, mem, rfl, rfl⟩, ?_⟩
  intro row mem active _
  refine ⟨mem, ?_⟩
  have back : ∃ view ∈ s.disk.views, s.disk.views[past]?.getD s.disk.view = view := by
    cases found : s.disk.views[past]? with
    | none => exact ⟨_, List.mem_cons_self, rfl⟩
    | some view => exact ⟨view, List.mem_of_getElem? found, rfl⟩
  obtain ⟨old, viewed, eq⟩ := back
  intro view mem'
  refine ⟨old, viewed, ?_⟩
  obtain ⟨body, found, -⟩ := ((sound.fits old viewed).whole row mem active).there
  rw [List.mem_singleton.mp mem']
  change (Disk.tear rest (s.disk.views[past]?.getD s.disk.view)).get? row.framePath = old.get? row.framePath
  rw [eq, Disk.get?_tear, found, Option.map_some, Disk.File.tear_stable rfl]

structure World.Sound (python : Interpreter) (w : World) : Prop where
  spool : Frames.Sound python w.spool
  handle : ∀ self ∈ w.handle, Fitting self w.spool

theorem World.sound_initial {budget : Storage.Database} : (World.initial budget).Sound python where
  spool :=
    { known := fun row mem => by cases mem
      bounded := fun values mem => by cases mem
      blank := fun _ => rfl
      fits := Disk.always_empty ⟨by simp, (fun row mem => by cases mem), (fun row mem => by cases mem)⟩ }
  handle := fun self mem => by cases mem

theorem mem_keepHandle {call : Call} {outcome : Outcome Failure Unit} {other : FrameSpool}
    (mem : other ∈ World.keepHandle call outcome self) : other = self := by
  cases call <;> cases outcome <;> simp_all [World.keepHandle]

/-- Whatever happens next, the spool stays sound. -/
theorem World.step_sound (sound : w.Sound python) (event : Event) :
    (w.step python event).Sound python ∧ Evolves event.marks w.spool (w.step python event).spool := by
  cases event with
  | opened opening answers =>
    cases held : w.handle with
    | some self =>
      simp only [World.step, held]
      exact ⟨sound, .refl⟩
    | none =>
      simp only [World.step, held]
      have after := Prog.run_wp (wp_openSpool [] opening sound.spool) answers
      generalize opening.openSpool.run answers w.spool = result at after
      obtain ⟨outcome, rest, spool⟩ := result
      cases outcome with
      | done self =>
        refine ⟨⟨after.1.1, ?_⟩, after.1.2⟩
        intro other mem
        cases mem
        exact after.2
      | raised e => exact ⟨⟨after.1, fun other mem => by cases mem⟩, after.2⟩
      | crashed => exact ⟨⟨after.1, fun other mem => by cases mem⟩, after.2⟩
  | retired opening answers =>
    cases held : w.handle with
    | some self =>
      simp only [World.step, held]
      exact ⟨sound, .refl⟩
    | none =>
      simp only [World.step, held]
      have same := (same_retireUninitialized opening).run answers w.spool
      have kept := same.keeps [] sound.spool
      exact ⟨⟨kept.1, fun other mem => by cases mem⟩, kept.2⟩
  | called call answers =>
    cases held : w.handle with
    | none =>
      simp only [World.step, held]
      exact ⟨sound, .refl⟩
    | some self =>
      simp only [World.step, held]
      have fitting := sound.handle self held
      have after := Prog.run_after (kept_exec call sound.spool fitting) answers
      refine ⟨⟨after.1, ?_⟩, after.2⟩
      intro other mem
      rw [mem_keepHandle mem]
      exact fitting.evolves after.2
  | closed => exact ⟨⟨sound.spool, fun other mem => by cases mem⟩, .refl⟩
  | cut past rest =>
    have kept := sound.spool.cut [] past rest
    exact ⟨⟨kept.1, fun other mem => by cases mem⟩, kept.2⟩

theorem World.run_evolves (sound : w.Sound python) (events : List Event) :
    (w.run python events).Sound python ∧
      Evolves (events.flatMap Event.marks) w.spool (w.run python events).spool := by
  induction events generalizing w with
  | nil => exact ⟨sound, .refl⟩
  | cons event events ih =>
    obtain ⟨sound, evolves⟩ := World.step_sound sound event
    obtain ⟨after, evolves'⟩ := ih sound
    refine ⟨after, ?_⟩
    rw [List.flatMap_cons]
    exact (evolves.mono (List.subset_append_left _ _)).trans (evolves'.mono (List.subset_append_right _ _))

theorem World.run_sound (budget : Storage.Database) (events : List Event) :
    ((World.initial budget).run python events).Sound python :=
  (World.run_evolves World.sound_initial events).1

end Steps

section Results

variable {python : Interpreter}

/-- Every file belongs to a row, and there are no more than the bounds of the spool allow, in number and in size. -/
structure Journaled (values : Meta) (frames : Table Row) (view : Disk.View FileName UInt8) : Prop where
  owned : ∀ name ∈ view.keys, ∃ row ∈ frames, name = row.tempPath ∨ name = row.framePath
  few : view.keys.length ≤ values.maxFrames
  light : view.total (fun file => file.bytes.length) ≤ values.maxBytes

/-- What is added up over the files of a view is no more than over the rows. -/
theorem Fits.sum_le {frames : Table Row} {view : Disk.View FileName UInt8} (fits : Fits python frames view)
    {f : FileName × Disk.File UInt8 → Int} {g : Row → Int} (nonneg : ∀ row, 0 ≤ g row)
    (le : ∀ name file row, Row.Owns row name file → f (name, file) ≤ g row) :
    (view.entries.map f).sum ≤ (frames.rows.map g).sum := by
  refine Disk.sum_le_of_owned (fun row entry => row.Owns entry.1 entry.2) ?_ ?_ fun row _ => nonneg row
  · rintro ⟨name, file⟩ mem
    obtain ⟨row, listed, owns⟩ := fits.owned name file (Dict.mem_entries.mp mem)
    exact ⟨row, listed, owns, le name file row owns⟩
  · have names : view.entries.Pairwise fun a b => a.1 ≠ b.1 := List.pairwise_map.mp view.nodup
    refine (List.Pairwise.and_mem.mp names).imp ?_
    rintro ⟨name, file⟩ ⟨name', file'⟩ ⟨mem, mem', different⟩ row listed owns owns'
    have found := Dict.mem_entries.mp mem
    have found' := Dict.mem_entries.mp mem'
    have alone := fits.alone row listed
    rcases owns.2 with rfl | ⟨rfl, -⟩ <;> rcases owns'.2 with rfl | ⟨rfl, -⟩
    · exact different rfl
    · rw [found, found'] at alone
      simp at alone
    · rw [found, found'] at alone
      simp at alone
    · exact different rfl

theorem sum_ones {α : Type} (l : List α) : (l.map fun _ => (1 : Int)).sum = l.length := by
  induction l with
  | nil => rfl
  | cons a l ih =>
    rw [List.map_cons, List.sum_cons, ih, List.length_cons, Nat.cast_succ, Int.add_comm]

theorem Sound.journaled {s : Spool} (sound : Sound python s) :
    ∀ values ∈ s.spoolMeta, s.disk.Always (Journaled values s.frames) := by
  intro values mem view viewed
  have fits := sound.fits view viewed
  obtain ⟨few, light⟩ := sound.bounded values mem
  refine ⟨?_, ?_, ?_⟩
  · intro name listed
    obtain ⟨file, found⟩ := Dict.mem_keys.mp listed
    obtain ⟨row, there, -, owns⟩ := fits.owned name file found
    exact ⟨row, there, owns.imp id And.left⟩
  · have count := fits.sum_le (f := fun _ => 1) (g := fun _ => 1) (fun _ => by decide) fun _ _ _ _ => le_rfl
    rw [sum_ones, sum_ones] at count
    rw [Dict.length_keys]
    exact (Int.ofNat_le.mp count).trans few
  · have total := fits.sum_le (f := fun entry => (entry.2.bytes.length : Int)) (g := fun row => (row.size : Int))
      (fun _ => Int.natCast_nonneg _) fun _ _ _ owns => Int.ofNat_le.mpr owns.1
    have sizes : (s.frames.rows.map fun row => (row.size : Int)).sum = (s.bytes : Int) := by
      unfold Spool.bytes
      induction s.frames.rows with
      | nil => rfl
      | cons row rows ih => simp [ih]
    rw [sizes] at total
    unfold Dict.total Dict.values
    rw [List.map_map]
    exact total.trans (Int.ofNat_le.mpr light)

/-- What the frames of a spool are worth, whatever a power cut brings back. -/
structure Safe (python : Interpreter) (s : Spool) : Prop where
  journaled : ∀ values ∈ s.spoolMeta, s.disk.Always (Journaled values s.frames)
  whole : ∀ row ∈ s.frames, row.state = .active → s.disk.Always (Whole python row)

/-- In every history, all files are journaled and within the bounds, and an active frame has its file, written out, of
its size and with its digest. -/
theorem frames_safe (budget : Storage.Database) (events : List Event) :
    Safe python ((World.initial budget).run python events).spool where
  journaled := (World.run_sound budget events).spool.journaled
  whole row mem active view viewed := ((World.run_sound budget events).spool.fits view viewed).whole row mem active

def Spool.sequences (spool : Spool) : List Int := spool.frames.rows.map (·.frameSequence)

/-- A row of `t` that is not one of `s` is of a frame later than all of them. -/
def Increases (s t : Spool) : Prop :=
  ∀ row ∈ t.frames, row.frameSequence ∉ s.sequences →
    ∀ old ∈ s.frames, old.frameSequence < row.frameSequence ∧ old.acquisitionSequence < row.acquisitionSequence

theorem mem_sequences {s : Spool} {n : Int} : n ∈ s.sequences ↔ ∃ row ∈ s.frames, row.frameSequence = n :=
  List.mem_map

theorem Evolves.increases {marks : List Int} {s t : Spool} (sound : Sound python s) (evolves : Evolves marks s t) :
    Increases s t := by
  intro row mem new old listed
  rcases evolves.fresh row mem with ⟨same, there, sequence, -⟩ | above
  · exact absurd (mem_sequences.mpr ⟨same, there, sequence⟩) new
  · obtain ⟨frame, acquisition⟩ := sound.known old listed
    exact ⟨frame.trans_lt above.1, acquisition.trans_lt above.2⟩

/-- What has gone is not later than anything that comes. -/
theorem Evolves.gone {marks marks' : List Int} {s t u : Spool} (sound : Sound python s) (evolves : Evolves marks s t)
    (evolves' : Evolves marks' t u) : s.sequences ∩ u.sequences ⊆ t.sequences := by
  intro n mem
  obtain ⟨before, after⟩ := List.mem_inter_iff.mp mem
  obtain ⟨old, listed, rfl⟩ := mem_sequences.mp before
  obtain ⟨row, mem, same⟩ := mem_sequences.mp after
  rcases evolves'.fresh row mem with ⟨between, there, sequence, -⟩ | above
  · exact mem_sequences.mpr ⟨between, there, sequence.trans same⟩
  · have below := (sound.known old listed).1
    have onward := evolves.watermark.1
    omega

/-- The sequences that are accepted increase over the whole life of a recording, and one that has gone never comes
back. -/
theorem sequences_increase (budget : Storage.Database) (events later last : List Event) :
    let w := (World.initial budget).run python events
    Increases w.spool (w.run python later).spool ∧
      w.spool.sequences ∩ ((w.run python later).run python last).spool.sequences ⊆
        (w.run python later).spool.sequences := by
  intro w
  have sound : w.Sound python := World.run_sound budget events
  obtain ⟨after, evolves⟩ := World.run_evolves sound later
  obtain ⟨-, evolves'⟩ := World.run_evolves after last
  exact ⟨evolves.increases sound.spool, evolves.gone sound.spool evolves'⟩

/-- What some history leads to. -/
def World.Reachable (python : Interpreter) (w : World) : Prop :=
  ∃ budget events, w = (World.initial budget).run python events

theorem World.Reachable.sound {w : World} (reached : w.Reachable python) : w.Sound python := by
  obtain ⟨budget, events, rfl⟩ := reached
  exact World.run_sound budget events

/-- A frame for which `stage` has returned a token stays active, with all its bytes in whatever comes back after a
power cut, until it is marked as durable elsewhere. -/
theorem staged_frame_held {w : World} {self : FrameSpool} {frameSequence acquisitionSequence : Int} {body : Bytes}
    {digest : String} {value : Json} {token : SpoolToken} {answers : List Answer} (reached : w.Reachable python)
    (held : w.handle = some self)
    (staged : ((self.stage python frameSequence acquisitionSequence body digest value).run answers w.spool).1 =
      .done token)
    (later : List Event) (unmarked : frameSequence ∉ later.flatMap Event.marks) :
    let t := ((self.stage python frameSequence acquisitionSequence body digest value).run answers w.spool).2.2
    let s := (World.run python ⟨t, some self⟩ later).spool
    ∃ row, Held row body s ∧ token = row.token self.issuer self.recordingId ∧
      row.frameSequence = frameSequence ∧ row.acquisitionSequence = acquisitionSequence ∧ row.digest = digest ∧
      metadata python value = .ok (row.metadataJson, row.metadataDigest) := by
  have sound := reached.sound
  have after := Prog.run_wp (wp_stage [] frameSequence acquisitionSequence body digest value sound.spool
    (sound.handle self held)) answers
  generalize (self.stage python frameSequence acquisitionSequence body digest value).run answers w.spool = result
    at staged after ⊢
  obtain ⟨outcome, rest, t⟩ := result
  obtain rfl : outcome = .done token := staged
  obtain ⟨⟨afterStage, evolves⟩, row, heldRow, made, sequence, described⟩ := after
  have opened : World.Sound python ⟨t, some self⟩ := by
    refine ⟨afterStage, ?_⟩
    intro other mem
    cases mem
    exact (sound.handle self held).evolves evolves
  obtain ⟨-, evolves'⟩ := World.run_evolves opened later
  rw [← sequence] at unmarked
  exact ⟨row, heldRow.evolves evolves' unmarked, made, sequence, described⟩

/-- A digest that tells texts of even length from those of odd length. -/
def parity : Interpreter where
  lower := id
  casefold := id
  nfc := id
  float := String.ofList
  depth := 100
  sha256 body := String.ofList (List.replicate 64 (if body.length % 2 = 0 then 'a' else 'b'))
  hmac _ _ := ""

def smallOpening : Opening where
  python := parity
  budget := ⟨10 ^ 9, 1, 10, by decide, by decide, by decide⟩
  root := "/spool"
  recordingId := "recording"
  maxFrames := 1
  maxBytes := 1
  existingOnly := false

def roomy : List Answer := List.replicate 40 { free := some (10 ^ 10) }

def openedWorld : World := (World.initial ⟨none, .empty⟩).run parity [.opened smallOpening roomy]

theorem openedWorld_open : openedWorld.handle.isSome = true := by decide +kernel

def openedSpool : FrameSpool := openedWorld.handle.get openedWorld_open

def smallFrame : SpoolToken :=
  { issuer := default
    recordingId := "recording"
    frameSequence := 1
    acquisitionSequence := 1
    size := 1
    digest := parity.sha256 [7]
    metadataDigest := parity.sha256 [] }

theorem smallFrame_staged : ((openedSpool.stage parity 1 1 [7] (parity.sha256 [7]) (.dict [])).run roomy
    openedWorld.spool).1 = .done smallFrame := by decide +kernel

/-- The power is cut after the frame has been staged, and the spool is opened again and recovered. -/
def afterwards : List Event := [.cut 0 fun _ => [], .opened smallOpening roomy, .called (.recover false) roomy]

theorem staged_frame_held_small :
    let t := ((openedSpool.stage parity 1 1 [7] (parity.sha256 [7]) (.dict [])).run roomy openedWorld.spool).2.2
    let s := (World.run parity ⟨t, some openedSpool⟩ afterwards).spool
    ∃ row, Held row [7] s ∧ smallFrame = row.token openedSpool.issuer openedSpool.recordingId ∧
      row.frameSequence = 1 ∧ row.acquisitionSequence = 1 ∧ row.digest = parity.sha256 [7] ∧
      metadata parity (.dict []) = .ok (row.metadataJson, row.metadataDigest) := by
  have reached : openedWorld.Reachable parity := ⟨⟨none, .empty⟩, [.opened smallOpening roomy], rfl⟩
  have held : openedWorld.handle = some openedSpool := (Option.some_get openedWorld_open).symm
  have unmarked : (1 : Int) ∉ afterwards.flatMap Event.marks := by simp [afterwards, Event.marks, Call.marks]
  have after := staged_frame_held reached held smallFrame_staged afterwards unmarked
  exact after

end Results

end Reproof.Live.Frames

import Reproof.Live.RecordingSession.Machine

/-! The steps of a recording that only collect: they leave its inputs, its media and its pins alone. -/

namespace Reproof.Live.RecordingSession

open Contracts Library

/-- A call that has pins, or that begins or freezes the recording. -/
def Call.Holds : Call → Prop
  | preparing .. | pinnedFrame .. | closingFrame .. | attaching .. | detaching .. | freezing .. | published ..
  | committed .. => True
  | _ => False

/-- A step that only collects. -/
def Event.Collects : Event → Prop
  | register _ | classify _ | declareGap .. | useFrameSpool | attachFrameSink | recordFrame .. | authorizeFrame ..
  | stampFrame .. | storeFrame .. | stageFrame .. | insertSource .. | sinkFrame .. | recordObservation ..
  | authorizeObservation .. | storeObservation .. | insertObservation .. => True
  | _ => False

/-- What a step leaves alone that only collects. -/
structure Journal.Quiet (j j' : Journal) : Prop where
  row : j'.row = { j.row with sourceMode := j'.row.sourceMode }
  events : j'.events = j.events
  media : j'.media = j.media
  pending : j'.pending = j.pending
  lifecycle : j'.lifecycle = j.lifecycle

namespace Journal.Quiet

variable {j j' j'' : Journal}

theorem refl : j.Quiet j := ⟨rfl, rfl, rfl, rfl, rfl⟩

theorem trans (first : j.Quiet j') (second : j'.Quiet j'') : j.Quiet j'' where
  row := by
    rw [second.row, first.row]
  events := second.events.trans first.events
  media := second.media.trans first.media
  pending := second.pending.trans first.pending
  lifecycle := second.lifecycle.trans first.lifecycle

theorem gap {reason : String} {offsetMs : Option Int} (done : j.gap reason offsetMs = .ok j') : j.Quiet j' := by
  unfold Journal.gap at done
  split at done
  · simp only [bind_eq_ok, require_eq_ok, pure_eq_ok] at done
    obtain ⟨-, -, rfl⟩ := done
    exact ⟨rfl, rfl, rfl, rfl, rfl⟩
  · cases done
    exact refl

theorem recordSample {row : SampleRow} (done : j.recordSample row = .ok j') : j.Quiet j' := by
  simp only [Journal.recordSample, bind_eq_ok, require_eq_ok, pure_eq_ok] at done
  obtain ⟨-, -, -, -, rfl⟩ := done
  exact ⟨rfl, rfl, rfl, rfl, rfl⟩

theorem insertObservation {digest path mimeType : String} {bytes : Int}
    (done : j.insertObservation digest path bytes mimeType = .ok j') : j.Quiet j' := by
  simp only [Journal.insertObservation, bind_eq_ok, require_eq_ok, pure_eq_ok] at done
  obtain ⟨-, -, -, -, rfl⟩ := done
  exact ⟨rfl, rfl, rfl, rfl, rfl⟩

theorem insertSource {row : SourceRow} (done : j.insertSource row = .ok j') : j.Quiet j' := by
  simp only [Journal.insertSource, bind_eq_ok, require_eq_ok, pure_eq_ok] at done
  obtain ⟨-, -, -, -, rfl⟩ := done
  exact ⟨rfl, rfl, rfl, rfl, rfl⟩

theorem useFrameSpool (done : j.useFrameSpool = .ok j') : j.Quiet j' := by
  simp only [Journal.useFrameSpool, bind_eq_ok, require_eq_ok, pure_eq_ok] at done
  obtain ⟨-, -, rfl⟩ := done
  exact ⟨rfl, rfl, rfl, rfl, rfl⟩

end Journal.Quiet

namespace World

variable {host : Host} {w w' w'' : World} {id : Nat}

/-- What a step of the world leaves alone that only collects; the calls that hold something are the same. -/
structure Quiet (w w' : World) : Prop where
  journal : w.journal.Quiet w'.journal
  anchor : w'.anchor = w.anchor
  opened : w'.opened = w.opened
  pins : w'.pins = w.pins
  receipts : w'.receipts = w.receipts
  calls : ∀ id call, call.Holds → (w'.calls.get? id = some call ↔ w.calls.get? id = some call)
  session : w'.session.isSome = w.session.isSome

/-- No call that holds something has this place. -/
def Free (w : World) (id : Nat) : Prop := ∀ call, w.calls.get? id = some call → ¬ call.Holds

theorem free_of_idle {call : Call} (at_id : w.calls.get? id = some call) (idle : ¬ call.Holds) : w.Free id := by
  intro other found
  rw [at_id] at found
  exact Option.some.inj found ▸ idle

theorem free_of_new (new : id ∉ w.calls.keys) : w.Free id := by
  intro call found
  exact absurd (Dict.mem_keys.mpr ⟨call, found⟩) new

namespace Quiet

theorem refl : w.Quiet w := ⟨.refl, rfl, rfl, rfl, rfl, fun _ _ _ => .rfl, rfl⟩

theorem trans (first : w.Quiet w') (second : w'.Quiet w'') : w.Quiet w'' where
  journal := first.journal.trans second.journal
  anchor := second.anchor.trans first.anchor
  opened := second.opened.trans first.opened
  pins := second.pins.trans first.pins
  receipts := second.receipts.trans first.receipts
  calls id call holds := (second.calls id call holds).trans (first.calls id call holds)
  session := second.session.trans first.session

theorem put {j : Journal} (quiet : w.journal.Quiet j) : w.Quiet (w.put j) :=
  ⟨quiet, rfl, rfl, rfl, rfl, fun _ _ _ => .rfl, rfl⟩

theorem commit {result : Except String Journal} (quiet : ∀ j, result = .ok j → w.journal.Quiet j) :
    w.Quiet (w.commit result) := by
  unfold World.commit
  split
  · exact put (quiet _ rfl)
  · exact refl

theorem gap (reason : String) (offsetMs : Option Int) : w.Quiet (w.gap reason offsetMs) :=
  commit fun _ => .gap

theorem noStamp : w.Quiet w.noStamp := gap ..

theorem free (quiet : w.Quiet w') (free : w.Free id) : w'.Free id :=
  fun call found holds => free call ((quiet.calls id call holds).mp found) holds

theorem call {call : Call} (free : w.Free id) (idle : ¬ call.Holds) : w.Quiet (w.call id call) where
  journal := .refl
  anchor := rfl
  opened := rfl
  pins := rfl
  receipts := rfl
  calls id' call' holds := by
    rw [World.call, Dict.get?_set]
    split
    · rename_i same
      subst same
      exact ⟨fun found => absurd holds (Option.some.inj found ▸ idle), fun found => absurd holds (free call' found)⟩
    · exact .rfl
  session := rfl

theorem leave (free : w.Free id) : w.Quiet (w.leave id) where
  journal := .refl
  anchor := rfl
  opened := rfl
  pins := rfl
  receipts := rfl
  calls id' call holds := by
    rw [World.leave, Dict.get?_erase]
    split
    · rename_i same
      subst same
      exact ⟨fun found => (by cases found), fun found => absurd holds (free call found)⟩
    · exact .rfl
  session := rfl

theorem session' {session : Option Session} (same : session.isSome = w.session.isSome) :
    w.Quiet { w with session } := ⟨.refl, rfl, rfl, rfl, rfl, fun _ _ _ => .rfl, same⟩

theorem endCollection (free : w.Free id) : w.Quiet (w.endCollection id) :=
  (leave free).trans (session' Option.isSome_map)

/-- After a quiet step a call goes on. -/
theorem goOn {call : Call} (quiet : w.Quiet w') (free : w.Free id) (idle : ¬ call.Holds) :
    w.Quiet (w'.call id call) := quiet.trans (.call (quiet.free free) idle)

/-- After a quiet step a call ends. -/
theorem ends (quiet : w.Quiet w') (free : w.Free id) : w.Quiet (w'.endCollection id) :=
  quiet.trans (.endCollection (quiet.free free))

theorem beginCollection {call : Call} (idle : ¬ call.Holds) : w.Quiet (w.beginCollection id call) := by
  unfold World.beginCollection
  split
  · rename_i s found
    split
    · rename_i fresh
      have called : w.Quiet (w.call id call) := .call (free_of_new fresh.2) idle
      exact called.trans (session' (by rw [World.call, found]; rfl))
    · exact refl
  · exact refl

theorem hand {kind : Kind} {acquisitionSequence : Int} {body : Bytes} :
    w.Quiet (w.hand kind acquisitionSequence body) := ⟨.refl, rfl, rfl, rfl, rfl, fun _ _ _ => .rfl, rfl⟩

theorem authorize {kind : Kind} {body : Bytes} {acquisitionSequence : Int}
    {classification : Option SampleClassification} {nativeIncarnation : Option String} {sample : Option Sample}
    {next : String → String → Call} (free : w.Free id) (idle : ∀ digest native, ¬ (next digest native).Holds) :
    w.Quiet (w.authorize host id kind body acquisitionSequence classification nativeIncarnation sample next) := by
  unfold World.authorize
  split
  · dsimp only
    split
    · split
      · split
        · rename_i recorded
          split
          · exact (put (.recordSample recorded)).goOn free (idle _ _)
          · exact ((put (.recordSample recorded)).trans (gap ..)).ends free
        · exact endCollection free
      · exact endCollection free
    · exact endCollection free
  · exact refl

end Quiet

theorem useFrameSpool_quiet : w.Quiet w.useFrameSpool := by
  unfold World.useFrameSpool
  split
  · rename_i s found
    split
    · split
      · rename_i j done
        exact (Quiet.put (.useFrameSpool done)).trans (.session' (by rw [World.put, found]; rfl))
      · exact .refl
    · exact .refl
  · exact .refl

theorem attachFrameSink_quiet : w.Quiet w.attachFrameSink := by
  unfold World.attachFrameSink
  split
  · rename_i s found
    split
    · exact .session' (by rw [found]; rfl)
    · exact .refl
  · exact .refl

theorem recordFrame_quiet {frame : Frame} {sample : Option Sample} : w.Quiet (w.recordFrame id frame sample) := by
  unfold World.recordFrame
  split
  · split
    · split
      · exact .beginCollection nofun
      · exact .refl
    · exact .noStamp
  · exact .refl

theorem stampFrame_quiet {sample : Option Sample} : w.Quiet (w.stampFrame host id sample) := by
  unfold World.stampFrame
  split
  · rename_i at_id _
    have free := free_of_idle at_id nofun
    split
    · exact (Quiet.gap ..).ends free
    · split
      · split
        · exact .call free nofun
        · exact .endCollection free
      · exact Quiet.noStamp.ends free
      · exact .endCollection free
  · exact .refl

theorem storeFrame_quiet {stored : Bool} : w.Quiet (w.storeFrame id stored) := by
  unfold World.storeFrame
  split
  · rename_i frame digest timing s at_id _
    have free := free_of_idle at_id nofun
    have gapped : w.Quiet (if frame.nativeSequenceGap.isSome then w.gap "native_frame_gap" (some timing.offsetMs)
        else w) := by
      split
      · exact .gap ..
      · exact .refl
    split
    · dsimp only
      split
      · exact (gapped.trans .hand).goOn free nofun
      · exact ((gapped.trans .hand).trans (.gap ..)).ends free
    · exact .refl
  · exact .refl

theorem stageFrame_quiet {staged : Bool} : w.Quiet (w.stageFrame id staged) := by
  unfold World.stageFrame
  split
  · rename_i at_id _
    have free := free_of_idle at_id nofun
    split
    · split
      · dsimp only
        split
        · exact Quiet.hand.goOn free nofun
        · exact (Quiet.hand.trans (.gap ..)).ends free
      · exact .endCollection free
    · exact .refl
  · exact .refl

theorem insertSource_quiet {writable : Bool} : w.Quiet (w.insertSource id writable) := by
  unfold World.insertSource
  split
  · rename_i at_id
    have free := free_of_idle at_id nofun
    split
    · rename_i j done
      exact (Quiet.put (.insertSource done)).goOn free nofun
    · exact .endCollection free
  · exact .refl

theorem sinkFrame_quiet {accepted : Bool} : w.Quiet (w.sinkFrame id accepted) := by
  unfold World.sinkFrame
  split
  · rename_i at_id
    have free := free_of_idle at_id nofun
    split
    · exact .endCollection free
    · exact (Quiet.gap ..).ends free
  · exact .refl

theorem recordObservation_quiet {observation : Observation} {sample : Option Sample} :
    w.Quiet (w.recordObservation id observation sample) := by
  unfold World.recordObservation
  split
  · split
    · exact .beginCollection nofun
    · split
      · split
        · exact .beginCollection nofun
        · exact .refl
      · exact .noStamp
  · exact .refl

theorem storeObservation_quiet {sample : Option Sample} {stored : Bool} :
    w.Quiet (w.storeObservation id sample stored) := by
  unfold World.storeObservation
  split
  · rename_i at_id
    have free := free_of_idle at_id nofun
    split
    · dsimp only
      split
      · exact Quiet.hand.goOn free nofun
      · exact (Quiet.hand.trans (.gap ..)).ends free
    · exact Quiet.noStamp.ends free
  · exact .refl

theorem insertObservation_quiet {writable : Bool} : w.Quiet (w.insertObservation id writable) := by
  unfold World.insertObservation
  split
  · rename_i at_id
    have free := free_of_idle at_id nofun
    split
    · rename_i j done
      exact (Quiet.put (.insertObservation done)).ends free
    · exact .endCollection free
  · exact .refl

theorem classify_quiet {token : SampleClassification} : w.Quiet (w.classify token) := by
  unfold World.classify
  split
  · split
    · exact ⟨.refl, rfl, rfl, rfl, rfl, fun _ _ _ => .rfl, rfl⟩
    · exact .refl
  · exact .refl

/-- A step that only collects leaves everything else alone. -/
theorem apply_quiet {event : Event} (collects : event.Collects) : w.Quiet (w.apply host event) := by
  cases event with
  | register => exact ⟨.refl, rfl, rfl, rfl, rfl, fun _ _ _ => .rfl, rfl⟩
  | classify => exact classify_quiet
  | declareGap =>
    dsimp only [apply]
    unfold World.declareGap
    split
    · exact .gap ..
    · exact .refl
  | useFrameSpool => exact useFrameSpool_quiet
  | attachFrameSink => exact attachFrameSink_quiet
  | recordFrame => exact recordFrame_quiet
  | authorizeFrame =>
    dsimp only [apply]
    unfold World.authorizeFrame
    split
    · rename_i at_id
      exact .authorize (free_of_idle at_id nofun) nofun
    · exact .refl
  | stampFrame => exact stampFrame_quiet
  | storeFrame => exact storeFrame_quiet
  | stageFrame => exact stageFrame_quiet
  | insertSource => exact insertSource_quiet
  | sinkFrame => exact sinkFrame_quiet
  | recordObservation => exact recordObservation_quiet
  | authorizeObservation =>
    dsimp only [apply]
    unfold World.authorizeObservation
    split
    · rename_i at_id
      exact .authorize (free_of_idle at_id nofun) nofun
    · exact .refl
  | storeObservation => exact storeObservation_quiet
  | insertObservation => exact insertObservation_quiet
  | prepare | admitInput | markDispatched | recordReceipt | pinFrame | insertFrame | closeFramePin | stopBarrier
  | attachVideo | pinVideo | insertVideo | closeVideoPin | freeze | freezeRecovered | publishOriginal
  | commitOriginal | unpinRecording | appendLifecycle | crash | reopen => exact collects.elim

end World

end Reproof.Live.RecordingSession

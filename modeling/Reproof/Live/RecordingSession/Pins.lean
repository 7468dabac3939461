import Reproof.Live.RecordingSession.Outcomes

/-! The pins of a recording: its media have theirs until it is frozen, and then there are none. -/

namespace Reproof.Live.RecordingSession

open Contracts Library

/-- The digests that a call has pinned for its rows. -/
def Call.pins : Call → List String
  | pinnedFrame _ reference _ => [reference.digest]
  | attaching rows _ _ pinned => (rows.take pinned).map (·.reference.digest)
  | _ => []

/-- The call has frozen the recording, and its pins are still to be removed. -/
def Call.Commits : Call → Prop
  | committed _ => True
  | _ => False

instance : DecidablePred Call.Commits
  | .committed _ => instDecidableTrue
  | .preparing .. | .frame .. | .authorizedFrame .. | .stampedFrame .. | .storedFrame .. | .pinnedFrame ..
  | .stagedFrame .. | .sinkingFrame | .closingFrame .. | .observation .. | .authorizedObservation ..
  | .storedObservation .. | .attaching .. | .detaching .. | .freezing .. | .published .. => instDecidableFalse

namespace World

variable {host : Host} {w w' : World} {id : Nat}

/-- A media row, or a call that is at it, needs the pin of the digest. -/
def Needs (w : World) (digest : String) : Prop :=
  (∃ row ∈ w.journal.media, row.reference.digest = digest) ∨ ∃ call ∈ w.calls.values, digest ∈ call.pins

instance : DecidablePred w.Needs := fun _ => inferInstanceAs (Decidable (_ ∨ _))

/-- A freeze has committed, and has not removed the pins yet. -/
def Commits (w : World) : Prop := ∃ call ∈ w.calls.values, call.Commits

instance : Decidable w.Commits := inferInstanceAs (Decidable (∃ call ∈ w.calls.values, call.Commits))

/-- The digest whose pin a call closes that has failed. -/
def closes (w : World) : Event → Option String
  | .closeFramePin id true => match w.calls.get? id with
    | some (.closingFrame digest) => some digest
    | _ => none
  | .closeVideoPin id true => match w.calls.get? id with
    | some (.detaching (row :: _)) => some row.reference.digest
    | _ => none
  | _ => none

/-- The step takes no pin behind a freeze, and lets a freeze remove the pins. -/
def Clears (w : World) : Event → Prop
  | .pinFrame _ true | .pinVideo _ true => w.journal.row.state.Frozen → w.Commits
  | .unpinRecording _ false => w.pins = ∅
  | .crash => w.journal.row.state.Frozen → w.pins = ∅
  | _ => True

instance : DecidablePred w.Clears := fun event => by
  unfold Clears
  split <;> infer_instance

/-- Before the freeze no call that has failed closes a pin that is needed; from then on the pins go. -/
def Allows (w : World) (event : Event) : Prop :=
  (∀ digest ∈ w.closes event, w.journal.row.state.Frozen ∨ ¬ w.Needs digest) ∧ w.Clears event

instance : DecidablePred w.Allows := fun _ => inferInstanceAs (Decidable (_ ∧ _))

/-- Every step of a run is allowed where it is taken. -/
def Orderly (host : Host) : World → List Event → Prop
  | _, [] => True
  | w, event :: events => w.Allows event ∧ Orderly host (w.apply host event) events

instance decidableOrderly (host : Host) : ∀ w events, Decidable (Orderly host w events)
  | _, [] => inferInstanceAs (Decidable True)
  | w, event :: events =>
    have := decidableOrderly host (w.apply host event) events
    inferInstanceAs (Decidable (_ ∧ _))

/-- What is pinned of a recording: before it is frozen all that is needed, and then nothing, but for a freeze that
has yet to remove it. -/
structure Pinned (w : World) : Prop where
  needs : ¬ w.journal.row.state.Frozen → ∀ digest, w.Needs digest → digest ∈ w.pins
  frozen : w.journal.row.state.Frozen → w.Commits ∨ w.pins = ∅
  commits : w.Commits → w.journal.row.state.Frozen

theorem commits_iff : w.Commits ↔ ∃ id recovery, w.calls.get? id = some (.committed recovery) := by
  constructor
  · rintro ⟨call, member, commits⟩
    obtain ⟨id, found⟩ := Dict.mem_values.mp member
    cases call with
    | committed recovery => exact ⟨id, recovery, found⟩
    | _ => exact commits.elim
  · rintro ⟨id, recovery, found⟩
    exact ⟨_, Dict.mem_values.mpr ⟨id, found⟩, trivial⟩

/-- Commits are the same when another call goes on. -/
theorem commits_call {new : Call} (idle : ∀ recovery, w.calls.get? id ≠ some (.committed recovery))
    (other : ¬ new.Commits) : (w.call id new).Commits ↔ w.Commits := by
  rw [commits_iff, commits_iff]
  constructor
  · rintro ⟨id', recovery, found⟩
    obtain ⟨-, rfl⟩ | ⟨-, old⟩ := Dict.get?_set_some found
    · exact absurd trivial other
    · exact ⟨id', recovery, old⟩
  · rintro ⟨id', recovery, found⟩
    have apart : id' ≠ id := fun same => idle recovery (same ▸ found)
    refine ⟨id', recovery, ?_⟩
    rw [World.call, Dict.get?_set, if_neg apart]
    exact found

theorem commits_leave (idle : ∀ recovery, w.calls.get? id ≠ some (.committed recovery)) :
    (w.leave id).Commits ↔ w.Commits := by
  rw [commits_iff, commits_iff]
  constructor
  · rintro ⟨id', recovery, found⟩
    rw [World.leave, Dict.get?_erase] at found
    split at found
    · cases found
    · exact ⟨id', recovery, found⟩
  · rintro ⟨id', recovery, found⟩
    have apart : id' ≠ id := fun same => idle recovery (same ▸ found)
    refine ⟨id', recovery, ?_⟩
    rw [World.leave, Dict.get?_erase, if_neg apart]
    exact found

/-- A call at the place is no commit. -/
theorem not_committed {call : Call} (at_id : w.calls.get? id = some call) (idle : ¬ call.Commits) :
    ∀ recovery, w.calls.get? id ≠ some (.committed recovery) := by
  intro recovery found
  rw [at_id] at found
  exact idle (Option.some.inj found ▸ trivial)

/-- What is needed when a call goes on. -/
theorem Needs.of_call {new : Call} {digest : String} (needs : (w.call id new).Needs digest) :
    digest ∈ new.pins ∨ w.Needs digest := by
  obtain row | ⟨call, member, pins⟩ := needs
  · exact .inr (.inl row)
  · obtain ⟨id', found⟩ := Dict.mem_values.mp member
    obtain ⟨-, rfl⟩ | ⟨-, old⟩ := Dict.get?_set_some found
    · exact .inl pins
    · exact .inr (.inr ⟨call, Dict.mem_values.mpr ⟨id', old⟩, pins⟩)

theorem Needs.of_leave {digest : String} (needs : (w.leave id).Needs digest) : w.Needs digest := by
  obtain row | ⟨call, member, pins⟩ := needs
  · exact .inl row
  · obtain ⟨id', found⟩ := Dict.mem_values.mp member
    rw [World.leave, Dict.get?_erase] at found
    split at found
    · cases found
    · exact .inr ⟨call, Dict.mem_values.mpr ⟨id', found⟩, pins⟩

/-- A step that takes no pin and needs no other. -/
theorem Pinned.step (pinned : w.Pinned) (frozen : w'.journal.row.state.Frozen ↔ w.journal.row.state.Frozen)
    (pins : w'.pins = w.pins) (needs : ∀ digest, w'.Needs digest → w.Needs digest) (commits : w'.Commits ↔ w.Commits) :
    w'.Pinned where
  needs unfrozen digest needed := pins ▸ pinned.needs (fun was => unfrozen (frozen.mpr was)) digest (needs digest needed)
  frozen is := by
    rw [pins]
    exact (pinned.frozen (frozen.mp is)).imp_left commits.mpr
  commits committed := frozen.mpr (pinned.commits (commits.mp committed))

theorem Pinned.quiet (pinned : w.Pinned) (quiet : w.Quiet w') : w'.Pinned := by
  have ties {call : Call} (member : call ∈ w'.calls.values) (holds : call.Holds) : call ∈ w.calls.values := by
    obtain ⟨id, found⟩ := Dict.mem_values.mp member
    exact Dict.mem_values.mpr ⟨id, (quiet.calls id call holds).mp found⟩
  refine pinned.step (by rw [quiet.journal.row]) quiet.pins (fun digest needed => ?_) ?_
  · obtain ⟨row, member, same⟩ | ⟨call, member, pins⟩ := needed
    · exact .inl ⟨row, quiet.journal.media ▸ member, same⟩
    · have holds : call.Holds := by
        cases call with
        | pinnedFrame | attaching => trivial
        | _ => cases pins
      exact .inr ⟨call, ties member holds, pins⟩
  · rw [commits_iff, commits_iff]
    exact exists_congr fun id => exists_congr fun recovery => quiet.calls id (.committed recovery) trivial

/-- A transaction that leaves the media alone, and does not freeze. -/
theorem Pinned.put (pinned : w.Pinned) {j : Journal} (media : j.media = w.journal.media)
    (frozen : j.row.state.Frozen ↔ w.journal.row.state.Frozen) : (w.put j).Pinned :=
  pinned.step frozen rfl (fun digest needed => by
    rw [Needs, World.put, media] at needed
    exact needed) .rfl

theorem Pinned.call (pinned : w.Pinned) {call new : Call} (at_id : w.calls.get? id = some call)
    (idle : ¬ call.Commits) (idle' : ¬ new.Commits) (none_ : new.pins = []) : (w.call id new).Pinned :=
  pinned.step .rfl rfl (fun digest needed => needed.of_call.resolve_left (by rw [none_]; exact List.not_mem_nil))
    (commits_call (not_committed at_id idle) idle')

theorem Pinned.leave (pinned : w.Pinned) {call : Call} (at_id : w.calls.get? id = some call)
    (idle : ¬ call.Commits) : (w.leave id).Pinned :=
  pinned.step .rfl rfl (fun _ needed => needed.of_leave) (commits_leave (not_committed at_id idle))

theorem Pinned.session (pinned : w.Pinned) (session : Option Session) : ({ w with session } : World).Pinned :=
  pinned.step .rfl rfl (fun _ => id) .rfl

theorem Pinned.opened (pinned : w.Pinned) (opened : Bool) : ({ w with opened } : World).Pinned :=
  pinned.step .rfl rfl (fun _ => id) .rfl

theorem Pinned.pinFrame (pinned : w.Pinned) (taken : Bool) (allowed : w.Allows (.pinFrame id taken)) :
    (w.pinFrame id taken).Pinned := by
  unfold World.pinFrame
  split
  · rename_i frame reference timing at_id
    split
    · rename_i fine
      obtain ⟨rfl, -⟩ := fine
      have same : (w.call id (.pinnedFrame frame reference timing)).Commits ↔ w.Commits :=
        commits_call (not_committed at_id nofun) nofun
      refine ⟨fun unfrozen digest needed => ?_, fun frozen => .inl (same.mpr (allowed.2 frozen)),
        fun commits => pinned.commits (same.mp commits)⟩
      obtain mine | needed := needed.of_call
      · rw [List.mem_singleton.mp mine]
        exact Finset.mem_insert_self ..
      · exact Finset.mem_insert_of_mem (pinned.needs unfrozen digest needed)
    · exact pinned.quiet ((Quiet.gap ..).ends (free_of_idle at_id nofun))
  · exact pinned

theorem Pinned.insertFrame (pinned : w.Pinned) (writable : Bool) : (w.insertFrame id writable).Pinned := by
  unfold World.insertFrame
  split
  · rename_i frame reference timing at_id
    have mine : w.Needs reference.digest :=
      .inr ⟨_, Dict.mem_values.mpr ⟨id, at_id⟩, List.mem_singleton_self _⟩
    split
    · rename_i j done
      simp only [Journal.insertFrame, bind_eq_ok, require_eq_ok, pure_eq_ok] at done
      obtain ⟨-, -, -, -, rfl⟩ := done
      have commits : (w.call id .sinkingFrame).Commits ↔ w.Commits := commits_call (not_committed at_id
        (fun h => by cases h)) (fun h => by cases h)
      refine ⟨fun unfrozen digest needed => pinned.needs unfrozen digest ?_,
        fun frozen => (pinned.frozen frozen).imp_left commits.mpr, fun committed => pinned.commits (commits.mp committed)⟩
      · obtain ⟨row, member, same⟩ | calls := needed.of_call.resolve_left List.not_mem_nil
        · obtain old | new := List.mem_append.mp member
          · exact .inl ⟨row, old, same⟩
          · rw [List.mem_singleton.mp new] at same
            exact same ▸ mine
        · exact .inr calls
    · exact pinned.call at_id (fun h => by cases h) (fun h => by cases h) rfl
  · exact pinned

/-- A pin is closed that nothing needs, or behind the freeze. -/
theorem Pinned.unpin (pinned : w.Pinned) {digest : String}
    (free : w.journal.row.state.Frozen ∨ ¬ w.Needs digest) : (w.unpin digest).Pinned where
  needs unfrozen other needed := by
    have unneeded := free.resolve_left unfrozen
    exact Finset.mem_erase.mpr ⟨fun same => unneeded (same ▸ needed), pinned.needs unfrozen other needed⟩
  frozen is := (pinned.frozen is).imp_right fun none_ => by
    rw [World.unpin, none_]
    rfl
  commits committed := pinned.commits committed

theorem Pinned.closeFramePin (pinned : w.Pinned) (unpinned : Bool) (allowed : w.Allows (.closeFramePin id unpinned)) :
    (w.closeFramePin id unpinned).Pinned := by
  unfold World.closeFramePin
  split
  · rename_i digest at_id
    cases unpinned with
    | true =>
      have free := allowed.1 digest (by rw [closes, at_id]; rfl)
      exact ((pinned.unpin free).leave at_id nofun).session _
    | false => exact (pinned.leave at_id nofun).session _
  · exact pinned

theorem Pinned.pinVideo (pinned : w.Pinned) (taken : Bool) (allowed : w.Allows (.pinVideo id taken)) :
    (w.pinVideo id taken).Pinned := by
  unfold World.pinVideo
  split
  · rename_i rows reason manifest n at_id
    split
    · rename_i row at_row
      split
      · rename_i fine
        obtain ⟨rfl, -⟩ := fine
        have same : (w.call id (.attaching rows reason manifest (n + 1))).Commits ↔ w.Commits :=
          commits_call (not_committed at_id nofun) nofun
        refine ⟨fun unfrozen digest needed => ?_, fun frozen => .inl (same.mpr (allowed.2 frozen)),
          fun commits => pinned.commits (same.mp commits)⟩
        obtain mine | needed := needed.of_call
        · rw [Call.pins, List.take_add_one, at_row, List.map_append] at mine
          obtain old | new := List.mem_append.mp mine
          · exact Finset.mem_insert_of_mem (pinned.needs unfrozen digest
              (.inr ⟨_, Dict.mem_values.mpr ⟨id, at_id⟩, old⟩))
          · rw [List.mem_singleton.mp new]
            exact Finset.mem_insert_self ..
        · exact Finset.mem_insert_of_mem (pinned.needs unfrozen digest needed)
      · exact pinned.call at_id nofun nofun rfl
    · exact pinned
  · exact pinned

theorem Pinned.insertVideo (pinned : w.Pinned) (writable : Bool) : (w.insertVideo id writable).Pinned := by
  unfold World.insertVideo
  split
  · rename_i rows reason manifest n at_id
    split
    · rename_i all
      split
      · rename_i j done
        simp only [Journal.attachVideo, bind_eq_ok, require_eq_ok, pure_eq_ok] at done
        obtain ⟨-, -, -, -, -, -, -, -, -, -, rfl⟩ := done
        have commits : (w.leave id).Commits ↔ w.Commits := commits_leave (not_committed at_id
          (fun h => by cases h))
        refine ⟨fun unfrozen digest needed => pinned.needs unfrozen digest ?_,
          fun frozen => (pinned.frozen frozen).imp_left commits.mpr, fun committed => pinned.commits (commits.mp committed)⟩
        · obtain ⟨row, member, same⟩ | calls := needed.of_leave
          · obtain old | new := List.mem_append.mp member
            · exact .inl ⟨row, old, same⟩
            · refine .inr ⟨_, Dict.mem_values.mpr ⟨id, at_id⟩, ?_⟩
              rw [Call.pins, all, List.take_length]
              exact List.mem_map.mpr ⟨row, new, same⟩
          · exact .inr calls
      · exact pinned.call at_id (fun h => by cases h) (fun h => by cases h) rfl
    · exact pinned
  · exact pinned

theorem Pinned.closeVideoPin (pinned : w.Pinned) (unpinned : Bool) (allowed : w.Allows (.closeVideoPin id unpinned)) :
    (w.closeVideoPin id unpinned).Pinned := by
  unfold World.closeVideoPin
  split
  · rename_i row rows at_id
    cases unpinned with
    | true =>
      have free := allowed.1 row.reference.digest (by rw [closes, at_id]; rfl)
      exact (pinned.unpin free).call at_id nofun nofun rfl
    | false => exact pinned.call at_id nofun nofun rfl
  · rename_i at_id
    exact pinned.leave at_id nofun
  · exact pinned

theorem Pinned.commitOriginal (pinned : w.Pinned) (booked : w.Booked) (writable : Bool) :
    (w.commitOriginal id writable).Pinned := by
  unfold World.commitOriginal
  split
  · rename_i original digest recovery at_id
    split
    · rename_i j done
      obtain ⟨past, events⟩ := booked.freezing id _ original at_id rfl
      have frozen : j.row.state.Frozen := (booked.journal.commitOriginal past events done).2.2.2.2.2
      refine ⟨fun unfrozen digest needed => absurd frozen unfrozen,
        fun _ => .inl (commits_iff.mpr ⟨id, recovery, Dict.get?_set_self⟩), fun _ => frozen⟩
    · exact pinned.leave at_id nofun
  · exact pinned

theorem Pinned.unpinRecording (pinned : w.Pinned) (unpinned : Bool)
    (allowed : w.Allows (.unpinRecording id unpinned)) : (w.unpinRecording id unpinned).Pinned := by
  unfold World.unpinRecording
  split
  · rename_i recovery at_id
    have frozen : w.journal.row.state.Frozen := pinned.commits (commits_iff.mpr ⟨id, recovery, at_id⟩)
    cases unpinned with
    | true => exact ⟨fun unfrozen => absurd frozen unfrozen, fun _ => .inr rfl, fun _ => frozen⟩
    | false => exact ⟨fun unfrozen => absurd frozen unfrozen, fun _ => .inr allowed.2, fun _ => frozen⟩
  · exact pinned

theorem finalizing_not_frozen : ¬ State.finalizing.Frozen := by decide

/-- The media are left alone, and nothing freezes. -/
def Unchanged (j j' : Journal) : Prop := j'.media = j.media ∧ (j'.row.state.Frozen ↔ j.row.state.Frozen)

theorem Pinned.commit (pinned : w.Pinned) {result : Except String Journal}
    (same : ∀ j, result = .ok j → Unchanged w.journal j) : (w.commit result).Pinned := by
  unfold World.commit
  split
  · exact pinned.put (same _ rfl).1 (same _ rfl).2
  · exact pinned

theorem Pinned.stop (pinned : w.Pinned) (offsetMs : Option Int) (reason : Option String) :
    (w.commit (w.journal.stopBarrier offsetMs reason)).Pinned := by
  refine pinned.commit fun j done => ?_
  unfold Journal.stopBarrier at done
  split at done
  · cases done
    exact ⟨rfl, .rfl⟩
  · rename_i early
    simp only [bind_eq_ok, require_eq_ok, pure_eq_ok] at done
    obtain ⟨-, -, rfl⟩ := done
    exact ⟨rfl, fun frozen => absurd frozen finalizing_not_frozen, fun frozen => absurd (.inl frozen) early⟩

theorem Pinned.startFreeze (pinned : w.Pinned) (idle : ∀ recovery, w.calls.get? id ≠ some (.committed recovery))
    (recovery : Bool) : (w.startFreeze host id recovery).Pinned := by
  unfold World.startFreeze
  split
  · split
    · exact pinned.step .rfl rfl (fun digest needed => needed.of_call.resolve_left List.not_mem_nil)
        (commits_call idle nofun)
    · exact pinned
  · exact pinned

theorem not_committed_of_new (new : id ∉ w.calls.keys) :
    ∀ recovery, w.calls.get? id ≠ some (.committed recovery) :=
  fun _ found => new (Dict.mem_keys.mpr ⟨_, found⟩)

theorem Pinned.reopen (pinned : w.Pinned) (id : Nat) : (w.reopen host id).Pinned := by
  unfold World.reopen
  split
  · rename_i closed
    split
    · exact pinned.opened _
    · rename_i unfrozen
      have recovered : (w.put w.journal.recover).Pinned := by
        unfold Journal.recover
        split
        · exact pinned
        · exact pinned.put rfl ⟨fun frozen => absurd frozen finalizing_not_frozen, fun frozen => absurd frozen unfrozen⟩
      have new : id ∉ (w.put w.journal.recover).calls.keys := by
        rw [World.put, closed.2]
        exact List.not_mem_nil
      dsimp only
      split
      · exact recovered.opened _
      · exact recovered.startFreeze (not_committed_of_new new) true
  · exact pinned

theorem Pinned.apply (pinned : w.Pinned) (booked : w.Booked) {event : Event} (allowed : w.Allows event) :
    (w.apply host event).Pinned := by
  cases event with
  | register | classify | declareGap | useFrameSpool | attachFrameSink | recordFrame | authorizeFrame | stampFrame
  | storeFrame | stageFrame | insertSource | sinkFrame | recordObservation | authorizeObservation
  | storeObservation | insertObservation => exact pinned.quiet (apply_quiet trivial)
  | prepare id =>
    dsimp only [World.apply]
    unfold World.prepare
    split
    · rename_i mine preparation at_id
      refine Pinned.session (Pinned.leave (pinned.put (j := w.journal.prepared preparation) ?_ ?_) at_id
        (fun h => by cases h)) _
      · unfold Journal.prepared
        split
        · rfl
        · rfl
      · unfold Journal.prepared
        split
        · rename_i preparing
          rw [preparing]
          exact show State.recording.Frozen ↔ State.preparing.Frozen by decide
        · exact .rfl
    · exact pinned
  | admitInput operationId generation provider input sample =>
    dsimp only [World.apply]
    unfold World.admitInput
    split
    · split
      · split
        · split
          · refine pinned.commit fun j done => ?_
            simp only [Journal.admitInput, bind_eq_ok, require_eq_ok, pure_eq_ok] at done
            obtain ⟨-, -, -, -, -, -, -, -, -, -, rfl⟩ := done
            exact ⟨rfl, .rfl⟩
          · exact pinned
        · exact pinned.quiet .noStamp
      · exact pinned
    · exact pinned
  | markDispatched operationId =>
    dsimp only [World.apply]
    unfold World.markDispatched
    split
    · refine pinned.commit fun j done => ?_
      obtain ⟨-, -, rfl⟩ := booked.journal.markDispatched done
      exact ⟨rfl, .rfl⟩
    · exact pinned
  | recordReceipt operationId status errorCode sample =>
    dsimp only [World.apply]
    unfold World.recordReceipt
    split
    · split
      · split
        · rename_i j receipt done
          have frame := Journal.recordReceipt_frame done
          have after : (w.put j).Pinned := pinned.put (by rw [frame]) (by rw [frame])
          exact after.step .rfl rfl (fun _ => id) .rfl
        · exact pinned
      · exact pinned.quiet .noStamp
    · exact pinned
  | pinFrame id taken => exact pinned.pinFrame taken allowed
  | insertFrame id writable => exact pinned.insertFrame writable
  | closeFramePin id unpinned => exact pinned.closeFramePin unpinned allowed
  | stopBarrier reason sample =>
    dsimp only [World.apply]
    unfold World.stopBarrier
    split
    · split
      · dsimp only
        split
        · exact (pinned.session _).stop ..
        · exact (pinned.session _).stop ..
      · exact pinned
    · exact pinned
  | attachVideo id rows incompleteReason manifest =>
    dsimp only [World.apply]
    unfold World.attachVideo
    split
    · rename_i fine
      exact pinned.step .rfl rfl (fun digest needed => needed.of_call.resolve_left List.not_mem_nil)
        (commits_call (not_committed_of_new fine.2.1) (fun h => by cases h))
    · exact pinned
  | pinVideo id taken => exact pinned.pinVideo taken allowed
  | insertVideo id writable => exact pinned.insertVideo writable
  | closeVideoPin id unpinned => exact pinned.closeVideoPin unpinned allowed
  | freeze id =>
    dsimp only [World.apply]
    unfold World.freeze
    split
    · rename_i fine
      exact pinned.startFreeze (not_committed_of_new fine.2.1) false
    · exact pinned
  | freezeRecovered id =>
    dsimp only [World.apply]
    unfold World.freezeRecovered
    split
    · rename_i fine
      exact pinned.startFreeze (not_committed_of_new fine.2.2.2.1) true
    · exact pinned
  | publishOriginal id stored =>
    dsimp only [World.apply]
    unfold World.publishOriginal
    split
    · rename_i original body digest recovery at_id
      split
      · exact pinned.call at_id (fun h => by cases h) (fun h => by cases h) rfl
      · exact pinned.leave at_id (fun h => by cases h)
    · exact pinned
  | commitOriginal id writable => exact pinned.commitOriginal booked writable
  | unpinRecording id unpinned => exact pinned.unpinRecording unpinned allowed
  | appendLifecycle operationId generation kind status observedAtMs =>
    dsimp only [World.apply]
    unfold World.appendLifecycle
    split
    · refine pinned.commit fun j done => ?_
      rw [(Journal.appendLifecycle_ok done).1.same]
      exact ⟨rfl, .rfl⟩
    · exact pinned
  | crash =>
    refine ⟨fun unfrozen digest needed => pinned.needs unfrozen digest ?_, fun frozen => .inr (allowed.2 frozen),
      fun commits => ?_⟩
    · obtain row | ⟨call, none_, -⟩ := needed
      · exact .inl row
      · cases none_
    · obtain ⟨call, none_, -⟩ := commits
      cases none_
  | reopen id => exact pinned.reopen id

theorem Pinned.run (pinned : w.Pinned) (booked : w.Booked) {events : List Event} (orderly : Orderly host w events) :
    (w.run host events).Pinned := by
  induction events generalizing w with
  | nil => exact pinned
  | cons event events ih => exact ih (pinned.apply booked orderly.1) (booked.apply event) orderly.2

theorem beginRecording_pinned {registrations : List Registration} {issuer : Nat} {anchor : Anchor}
    {begins : Beginning} (began : beginRecording host registrations issuer anchor begins = .ok w) : w.Pinned := by
  obtain ⟨registration, -, -, -, rfl⟩ := beginRecording_ok began
  have state : (begins.row registration anchor).state = .preparing := rfl
  have first {call : Call} (member : call ∈ (Dict.set .empty 0 (Call.preparing issuer begins.preparation)).values) :
      call = .preparing issuer begins.preparation := by
    obtain ⟨id, found⟩ := Dict.mem_values.mp member
    obtain ⟨-, rfl⟩ | ⟨-, old⟩ := Dict.get?_set_some found
    · rfl
    · cases old
  refine ⟨fun _ digest needed => ?_, fun frozen => ?_, fun commits => ?_⟩
  · obtain ⟨row, none_, -⟩ | ⟨call, member, pins⟩ := needed
    · cases none_
    · rw [first member] at pins
      cases pins
  · rw [state] at frozen
    exact absurd frozen (by decide)
  · obtain ⟨call, member, commits⟩ := commits
    rw [first member] at commits
    exact commits.elim

/-- Until it is frozen, every digest of the media of a recording is pinned; once it is, and its freeze is over, nothing
is. So it is when no call that has failed closes a pin that a media row or another call needs, no pin is taken behind
a freeze, and a freeze gets to remove the pins that there are. -/
theorem run_pinned {registrations : List Registration} {issuer : Nat} {anchor : Anchor} {begins : Beginning}
    (began : beginRecording host registrations issuer anchor begins = .ok w) {events : List Event}
    (orderly : Orderly host w events) :
    let w' := w.run host events
    (w'.journal.row.state = .recording ∨ w'.journal.row.state = .finalizing →
      ∀ row ∈ w'.journal.media, row.reference.digest ∈ w'.pins) ∧
    (w'.journal.row.state.Frozen → ¬ w'.Commits → w'.pins = ∅) := by
  intro w'
  have pinned : w'.Pinned := (beginRecording_pinned began).run (beginRecording_booked began) orderly
  refine ⟨fun state row member => pinned.needs ?_ _ (.inl ⟨row, member, rfl⟩),
    fun frozen ended => (pinned.frozen frozen).resolve_left ended⟩
  obtain state | state := state
  · rw [state]
    decide
  · rw [state]
    decide

section Trial

/-- A frame, whose bytes are always the same. -/
def still (acquisitionSequence : Int) : Frame :=
  ⟨[1], "image/png", 1, 1, "portrait", acquisitionSequence, none, none, none, none, none, none, "host-acquired"⟩

/-- A frame is taken up to its pin. -/
def takeFrame (id : Nat) (acquisitionSequence : Int) : List Event :=
  [.recordFrame id (still acquisitionSequence) second, .authorizeFrame id second, .stampFrame id second,
    .storeFrame id true, .pinFrame id true]

/-- A finalized video. -/
def video : MediaRow where
  reference :=
    { id := "video"
      digest := String.ofList (List.replicate 64 'e')
      path := objectPath (String.ofList (List.replicate 64 'e'))
      bytes := 1
      mimeType := "video/mp4" }
  timing :=
    { offsetMs := 0
      earliestOffsetMs := 0
      latestOffsetMs := 0
      uncertaintyNs := 0
      timingSource := "host-acquired"
      acquisitionSequence := none
      nativeIncarnation := none
      provider := none
      providerMonotonicNs := none
      providerCaptureStartNs := none }

/-- A frame and a video, and then the freeze. -/
def frameAndVideo : List Event :=
  ([.prepare 0] : List Event) ++ takeFrame 1 1 ++ ([.insertFrame 1 true, .stopBarrier none second,
    .attachVideo 2 [video] none none, .pinVideo 2 true, .insertVideo 2 true, .freeze 3, .publishOriginal 3 true,
    .commitOriginal 3 true] : List Event)

theorem frameAndVideo_orderly :
    ∃ w, beginRecording plain [shop .testData] 0 midnight shopping = .ok w ∧
      Orderly plain w (frameAndVideo.take 11) ∧
      (w.run plain (frameAndVideo.take 11)).journal.row.state = .finalizing ∧
      (w.run plain (frameAndVideo.take 11)).journal.media.map (·.reference.id) = ["frame_1", "video"] :=
  shopping_begins .testData (by decide +kernel)

theorem run_pinned_frameAndVideo :
    ∃ w, beginRecording plain [shop .testData] 0 midnight shopping = .ok w ∧
      (w.run plain (frameAndVideo.take 11)).journal.media.map (·.reference.id) = ["frame_1", "video"] ∧
      ∀ row ∈ (w.run plain (frameAndVideo.take 11)).journal.media,
        row.reference.digest ∈ (w.run plain (frameAndVideo.take 11)).pins := by
  obtain ⟨w, began, orderly, finalizing, media⟩ := frameAndVideo_orderly
  have pinned := run_pinned began orderly
  refine ⟨w, began, media, ?_⟩
  generalize w.run plain (frameAndVideo.take 11) = w' at pinned finalizing ⊢
  exact pinned.1 (.inr finalizing)

/-- A second frame with the same bytes, whose row comes after the stop. -/
def secondFrame : List Event :=
  ([.prepare 0] : List Event) ++ takeFrame 1 1 ++ ([.insertFrame 1 true] : List Event) ++ takeFrame 2 2 ++
    ([.stopBarrier none second, .insertFrame 2 true, .closeFramePin 2 true] : List Event)

/-- A video that is attached twice. -/
def secondVideo : List Event :=
  [.prepare 0, .stopBarrier none second, .attachVideo 1 [video] none none, .pinVideo 1 true, .insertVideo 1 true,
    .attachVideo 2 [video] none none, .pinVideo 2 true, .insertVideo 2 true, .closeVideoPin 2 true]

/-- What `plain` looks at before it commits a freeze. -/
def Freezes (w : World) : Prop :=
  (w.session.isSome ∧ 3 ∉ w.calls.keys ∧ ∀ call ∈ w.calls.values, ¬ call.Freezes) ∧
  (w.journal.row.state = .finalizing ∧
    (w.journal.row.sourceMode = .originalCas ∨ w.journal.row.sourceManifestDigest.isSome)) ∧
  (validateOriginalEvidence plain.python w.journal.original).isOk = true ∧
  (∃ text ∈ (w.journal.original.json plain.repr).write plain.python.depth,
    (text.flatMap String.utf8EncodeChar).length + objectMetadataBytes ≤ finalizationReservationBytes ∧
    (text.flatMap String.utf8EncodeChar).length ≤ journalReservationBytes) ∧
  w.journal.row.recordingDigest = none ∧
  (match w.journal.commitOriginal w.journal.original (plain.python.sha256 []) (plain.python.sha256 []) false with
    | .ok journal => decide journal.row.state.Frozen
    | .error _ => false) = true

instance : DecidablePred Freezes := fun _ => inferInstanceAs (Decidable (_ ∧ _))

theorem Freezes.freezable (freezes : w.Freezes) :
    ∃ body, w.journal.freezable plain.python (OriginalEvidence.json plain.repr) =
      .ok (w.journal.original, body, plain.python.sha256 []) := by
  obtain ⟨-, ⟨finalizing, attached⟩, valid, ⟨text, written, bounds⟩, -⟩ := freezes
  have dumped : dumps plain.python (w.journal.original.json plain.repr) =
      some (text.flatMap String.utf8EncodeChar) := by
    rw [dumps_eq, written]
    rfl
  have digested : digest plain.python (w.journal.original.json plain.repr) = .ok (plain.python.sha256 []) := by
    rw [digest, dumped]
    rfl
  refine ⟨text.flatMap String.utf8EncodeChar, ?_⟩
  unfold Journal.freezable
  cases validated : validateOriginalEvidence plain.python w.journal.original with
  | error message =>
    rw [validated] at valid
    cases valid
  | ok checked =>
    simp only [bind_eq_ok, require_eq_ok, pure_eq_ok, orFail_eq_ok, digested]
    exact ⟨(), finalizing, (), attached, checked, rfl, _, dumped, (), bounds, _, rfl, (), rfl, rfl⟩

/-- What is left of a freeze when a crash comes before it removes the pins. -/
theorem Freezes.crashed (freezes : w.Freezes) :
    let w' := w.run plain [.freeze 3, .publishOriginal 3 true, .commitOriginal 3 true, .crash, .reopen 4]
    w'.journal.row.state.Frozen ∧ w'.opened = true ∧ w'.calls.keys = [] ∧ w'.pins = w.pins := by
  obtain ⟨body, freezable⟩ := freezes.freezable
  obtain ⟨idle, -, -, -, undigested, commits⟩ := freezes
  have started : w.freeze plain 3 =
      w.call 3 (.freezing w.journal.original body (plain.python.sha256 []) false) := by
    rw [freeze, if_pos idle, startFreeze, freezable]
    exact if_pos undigested
  have published : (w.freeze plain 3).publishOriginal 3 true =
      (w.freeze plain 3).call 3 (.published w.journal.original (plain.python.sha256 []) false) := by
    rw [started, publishOriginal]
    simp only [call, Dict.get?_set_self, if_true]
  cases committed : w.journal.commitOriginal w.journal.original (plain.python.sha256 []) (plain.python.sha256 [])
      false with
  | error message =>
    rw [committed] at commits
    cases commits
  | ok journal =>
    rw [committed] at commits
    have frozen : journal.row.state.Frozen := of_decide_eq_true commits
    have ended : ((w.freeze plain 3).publishOriginal 3 true).commitOriginal 3 true =
        (((w.freeze plain 3).publishOriginal 3 true).put journal).call 3 (.committed false) := by
      rw [published, started, commitOriginal]
      simp only [call, Dict.get?_set_self, committed]
    have reopened : w.run plain [.freeze 3, .publishOriginal 3 true, .commitOriginal 3 true, .crash, .reopen 4] =
        ((((w.freeze plain 3).publishOriginal 3 true).commitOriginal 3 true).crash).reopen plain 4 := rfl
    rw [reopened, ended, published, started, reopen, if_pos ⟨rfl, rfl⟩, if_pos (by exact frozen)]
    exact ⟨frozen, rfl, rfl, rfl⟩

theorem frameAndVideo_freezes : ∃ w, beginRecording plain [shop .testData] 0 midnight shopping = .ok w ∧
    (w.run plain (frameAndVideo.take 11)).Freezes := by
  refine shopping_begins .testData ?_
  simp only [Freezes, Json.write_eq]
  decide +kernel

/-- A second frame with the same bytes that is too late, and a second attachment of a video, each take the pin of the
first one along while the recording is finalizing; and after a crash within the freeze the pins stay for ever. -/
theorem pins_lost_and_left :
    ∃ w, beginRecording plain [shop .testData] 0 midnight shopping = .ok w ∧
      ((w.run plain secondFrame).journal.row.state = .finalizing ∧
        ∃ row ∈ (w.run plain secondFrame).journal.media, row.reference.digest ∉ (w.run plain secondFrame).pins) ∧
      ((w.run plain secondVideo).journal.row.state = .finalizing ∧
        ∃ row ∈ (w.run plain secondVideo).journal.media, row.reference.digest ∉ (w.run plain secondVideo).pins) ∧
      let w' := w.run plain (frameAndVideo ++ [.crash, .reopen 4])
      w'.journal.row.state.Frozen ∧ w'.opened = true ∧ w'.calls.keys = [] ∧ w'.pins ≠ ∅ := by
  have trial : ∃ w, beginRecording plain [shop .testData] 0 midnight shopping = .ok w ∧
      ((w.run plain secondFrame).journal.row.state = .finalizing ∧
        ∃ row ∈ (w.run plain secondFrame).journal.media, row.reference.digest ∉ (w.run plain secondFrame).pins) ∧
      ((w.run plain secondVideo).journal.row.state = .finalizing ∧
        ∃ row ∈ (w.run plain secondVideo).journal.media, row.reference.digest ∉ (w.run plain secondVideo).pins) ∧
      video.reference.digest ∈ (w.run plain (frameAndVideo.take 11)).pins :=
    shopping_begins .testData (by decide +kernel)
  obtain ⟨w, began, frames, videos, pinned⟩ := trial
  obtain ⟨_, began', freezes⟩ := frameAndVideo_freezes
  cases began.symm.trans began'
  have parts : w.run plain (frameAndVideo ++ [Event.crash, .reopen 4]) = (w.run plain (frameAndVideo.take 11)).run plain
      [.freeze 3, .publishOriginal 3 true, .commitOriginal 3 true, .crash, .reopen 4] :=
    List.foldl_append (l := frameAndVideo.take 11)
  have left := freezes.crashed
  rw [← parts] at left
  refine ⟨w, began, frames, videos, ?_⟩
  generalize w.run plain (frameAndVideo ++ [Event.crash, .reopen 4]) = w' at left ⊢
  obtain ⟨frozen, opened, idle, kept⟩ := left
  rw [← kept] at pinned
  exact ⟨frozen, opened, idle, Finset.ne_empty_of_mem pinned⟩

end Trial

end World

end Reproof.Live.RecordingSession

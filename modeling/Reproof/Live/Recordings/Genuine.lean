import Reproof.Live.Recordings.Replaying

/-! Only recordings that this process has captured from a reset are replayed, or whole derivations of
them. -/

namespace Reproof.Live.Recordings

open Contracts Library Lab
open Lab.Inputs (LiveError check Mode)

/-- What a replay has to be on. -/
structure Target where
  deviceId : String
  providerKind : String
  applicationIdentity : Option Identity

def Subject.target (subject : Subject) : Target :=
  ⟨subject.deviceId, subject.providerKind, subject.applicationIdentity⟩

def Recording.target (r : Recording) : Target := r.subject.target

/-- Captured by `owner` on `target`, the last act of whose session was a reset to `contract`, or derived
from such a recording by keeping all events. -/
def Origin.Genuine (contract owner : String) (target : Target) : Origin → Prop
  | captured by' subject acts => by' = owner ∧ subject.target = target ∧ ∃ binding : ResetBinding,
      acts.getLast? = some (.reset binding) ∧ binding.contract = contract ∧
        binding.deviceId = target.deviceId ∧ binding.kind = target.providerKind
  | derived source by' whole => by' = owner ∧ whole = true ∧ source.Genuine contract owner target
  | imported | loaded => False

def Origin.Captured : Origin → Prop
  | captured .. => True
  | _ => False

structure Entry.Sound (entry : Entry) : Prop where
  bound : ∀ binding, entry.replayBinding = some binding →
    binding.owner = entry.owner ∧ entry.origin.Genuine binding.contract entry.owner entry.data.target
  reset : entry.origin.Captured → ∀ contract, entry.resetContract = some contract →
    entry.origin.Genuine contract entry.owner entry.data.target

/-- An entry with the target and the origin given. -/
def World.Has (w : World) (rid : String) (target : Target) (origin : Origin) : Prop :=
  ∃ entry, w.recordings.get? rid = some entry ∧ entry.data.target = target ∧ entry.origin = origin

/-- Entries keep what they are about and where they have come from. -/
def World.Extends (w w' : World) : Prop :=
  ∀ rid target origin, w.Has rid target origin → w'.Has rid target origin

structure Session.Sound (w : World) (s : Session) : Prop where
  known : ∀ binding, s.knownStart = some binding → s.acts.getLast? = some (.reset binding)
  recording : ∀ rid, s.recordingId = some rid → ∃ target origin, w.Has rid target origin ∧ origin.Captured

def Call.Sound (w : World) : Call → Prop
  | stop _ rid _ => ∃ target origin, w.Has rid target origin ∧ origin.Captured
  | derive rid _ source result => (∃ origin, w.Has rid source.target origin) ∧
      result.target = source.target ∧
      (result.replayable = true → result.events.map (·.id) = source.events.map (·.id))
  | replay _ _ r => ∃ origin, w.Has r.id r.target origin
  | input .. | reset .. | start .. => True

/-- The replay is of a genuine recording of its owner, for what its session supports. -/
def Replay.Genuine (replay : Replay) : Prop :=
  ∃ contract, replay.device.supportedResetContract = some contract ∧
    replay.origin.Genuine contract replay.owner
      ⟨replay.deviceId, replay.device.kind, replay.device.applicationIdentity⟩

structure World.Sound (w : World) : Prop where
  entries : ∀ rid entry, w.recordings.get? rid = some entry → entry.Sound ∧ entry.data.id = rid
  sessions : ∀ sid s, w.sessions.get? sid = some s → s.Sound w
  calls : ∀ id call, w.calls.get? id = some call → call.Sound w
  accepted : ∀ replay ∈ w.accepted, replay.Genuine

section

variable {digests : Digests} {w w' : World}

theorem World.Extends.of_recordings (same : w'.recordings = w.recordings) : w.Extends w' := by
  intro rid target origin has
  obtain ⟨entry, found, about⟩ := has
  exact ⟨entry, by rw [same, found], about⟩

theorem World.Extends.trans {w'' : World} (first : w.Extends w') (second : w'.Extends w'') : w.Extends w'' :=
  fun rid target origin has => second rid target origin (first rid target origin has)

theorem Session.Sound.mono {s : Session} (sound : s.Sound w) (kept : w.Extends w') : s.Sound w' where
  known := sound.known
  recording rid at_rid := by
    obtain ⟨target, origin, has, captured⟩ := sound.recording rid at_rid
    exact ⟨target, origin, kept rid target origin has, captured⟩

theorem Call.Sound.mono {call : Call} (sound : call.Sound w) (kept : w.Extends w') : call.Sound w' := by
  cases call with
  | input | reset | start => trivial
  | stop =>
    obtain ⟨target, origin, has, captured⟩ := sound
    exact ⟨target, origin, kept _ _ _ has, captured⟩
  | derive =>
    obtain ⟨⟨origin, has⟩, rest⟩ := sound
    exact ⟨⟨origin, kept _ _ _ has⟩, rest⟩
  | replay =>
    obtain ⟨origin, has⟩ := sound
    exact ⟨origin, kept _ _ _ has⟩

theorem frozen_about (digests : Digests) (entry : Entry) (reason : Option String) (now : Int) :
    (entry.frozen digests reason now).id = entry.data.id ∧
      (entry.frozen digests reason now).target = entry.data.target := by
  unfold Entry.frozen
  dsimp only
  split <;> split <;> exact ⟨rfl, rfl⟩

theorem Entry.Sound.freeze {entry : Entry} (sound : entry.Sound) (captured : entry.origin.Captured)
    (reason : Option String) (now : Int) : (entry.freeze digests reason now).Sound := by
  obtain ⟨-, target⟩ := frozen_about digests entry reason now
  exact {
    bound := fun binding bound => by
      unfold Entry.freeze at bound ⊢
      dsimp only at bound ⊢
      rw [target]
      split at bound
      · rename_i contract reset
        split at bound
        · cases bound
          exact ⟨rfl, sound.reset captured contract reset⟩
        · exact sound.bound binding bound
      · exact sound.bound binding bound
    reset := fun captured contract reset => by
      change entry.origin.Genuine contract entry.owner (entry.frozen digests reason now).target
      rw [target]
      exact sound.reset captured contract reset }

namespace World

/-- The world after a step that keeps its entries, when whatever is new in it is sound. -/
theorem Sound.step (sound : w.Sound) (kept : w.Extends w')
    (entries : ∀ rid entry, w'.recordings.get? rid = some entry →
      w.recordings.get? rid = some entry ∨ entry.Sound ∧ entry.data.id = rid)
    (sessions : ∀ sid s, w'.sessions.get? sid = some s → w.sessions.get? sid = some s ∨ s.Sound w')
    (calls : ∀ id call, w'.calls.get? id = some call → w.calls.get? id = some call ∨ call.Sound w')
    (accepted : ∀ replay ∈ w'.accepted, replay ∈ w.accepted ∨ replay.Genuine) : w'.Sound where
  entries rid entry found := (entries rid entry found).elim (sound.entries rid entry) id
  sessions sid s found := (sessions sid s found).elim (fun old => (sound.sessions sid s old).mono kept) id
  calls id call found := (calls id call found).elim (fun old => (sound.calls id call old).mono kept) fun h => h
  accepted replay mem := (accepted replay mem).elim (sound.accepted replay) id

theorem Sound.putSession (sound : w.Sound) {sid : String} {s : Session} (new : s.Sound w) :
    (w.putSession sid s).Sound := by
  have kept : w.Extends (w.putSession sid s) := .of_recordings rfl
  refine sound.step kept (fun _ _ found => .inl found) (fun sid' s' found => ?_)
    (fun _ _ found => .inl found) fun _ mem => .inl mem
  obtain ⟨-, rfl⟩ | ⟨-, old⟩ := Dict.get?_set_some found
  · exact .inr (new.mono kept)
  · exact .inl old

theorem Sound.call (sound : w.Sound) {id : Nat} {call : Call} (new : call.Sound w) :
    (w.call id call).Sound := by
  have kept : w.Extends (w.call id call) := .of_recordings rfl
  refine sound.step kept (fun _ _ found => .inl found) (fun _ _ found => .inl found)
    (fun id' call' found => ?_) fun _ mem => .inl mem
  obtain ⟨-, rfl⟩ | ⟨-, old⟩ := Dict.get?_set_some found
  · exact .inr (new.mono kept)
  · exact .inl old

theorem Sound.leave (sound : w.Sound) (id : Nat) : (w.leave id).Sound := by
  refine sound.step (.of_recordings rfl) (fun _ _ found => .inl found) (fun _ _ found => .inl found)
    (fun id' call' found => ?_) fun _ mem => .inl mem
  rw [World.leave, Dict.get?_erase] at found
  split at found
  · cases found
  · exact .inl found

/-- An entry is put in the place of another that is about the same. -/
theorem Sound.put (sound : w.Sound) {rid : String} {entry : Entry} (new : Entry)
    (found : w.recordings.get? rid = some entry) (target : new.data.target = entry.data.target) (origin : new.origin = entry.origin) (good : new.Sound)
    (named : new.data.id = rid) (recordings : w'.recordings = w.recordings.set rid new)
    (sessions : w'.sessions = w.sessions) (calls : w'.calls = w.calls) (accepted : w'.accepted = w.accepted) :
    w'.Sound ∧ w.Extends w' := by
  have kept : w.Extends w' := fun rid' target' origin' has => by
    obtain ⟨entry', found', rfl, rfl⟩ := has
    by_cases same : rid' = rid
    · subst same
      obtain rfl := Option.some.inj (found.symm.trans found')
      exact ⟨new, by rw [recordings, Dict.get?_set_self], target, origin⟩
    · exact ⟨entry', by rw [recordings, Dict.get?_set, if_neg same, found'], rfl, rfl⟩
  refine ⟨sound.step kept (fun rid' entry' found' => ?_) (fun sid s at_sid => .inl (sessions ▸ at_sid))
    (fun id call at_id => .inl (calls ▸ at_id)) fun replay mem => .inl (accepted ▸ mem), kept⟩
  rw [recordings] at found'
  obtain ⟨rfl, rfl⟩ | ⟨-, old⟩ := Dict.get?_set_some found'
  · exact .inr ⟨good, named⟩
  · exact .inl old

theorem Sound.freeze (sound : w.Sound) {rid : String} {target : Target} {origin : Origin}
    (has : w.Has rid target origin) (captured : origin.Captured) (reason : Option String) (now : Int)
    (written : Bool) :
    (w.freeze digests rid reason now written).Sound ∧ w.Extends (w.freeze digests rid reason now written) := by
  obtain ⟨entry, found, rfl, rfl⟩ := has
  obtain ⟨good, named⟩ := sound.entries rid entry found
  obtain ⟨named', about⟩ := frozen_about digests entry reason now
  unfold World.freeze
  rw [found]
  dsimp only
  split
  · exact sound.put (entry.freeze digests reason now) found about rfl (good.freeze captured reason now)
      (named'.trans named) rfl rfl rfl rfl
  · refine sound.put { entry with data := entry.frozen digests reason now } found about rfl ?_
      (named'.trans named) rfl rfl rfl rfl
    exact {
      bound := fun binding bound => by
        dsimp only at bound ⊢
        rw [about]
        exact good.bound binding bound
      reset := fun captured contract reset => by
        dsimp only at reset ⊢
        rw [about]
        exact good.reset captured contract reset }

theorem freeze_rest (rid : String) (reason : Option String) (now : Int) (written : Bool) :
    (w.freeze digests rid reason now written).sessions = w.sessions ∧
      (w.freeze digests rid reason now written).calls = w.calls ∧
      (w.freeze digests rid reason now written).devices = w.devices ∧
      (w.freeze digests rid reason now written).accepted = w.accepted := by
  unfold World.freeze
  split
  · exact ⟨rfl, rfl, rfl, rfl⟩
  · split <;> exact ⟨rfl, rfl, rfl, rfl⟩

theorem invalidate_accepted (s : Session) (reason : String) (now : Int) (written : Bool) :
    (w.invalidate digests s reason now written).accepted = w.accepted := by
  unfold World.invalidate
  split
  · rfl
  · split
    · rfl
    · split
      · exact (freeze_rest _ _ _ _).2.2.2
      · rfl

theorem Sound.invalidate (sound : w.Sound) {s : Session} (known : s.Sound w) (reason : String) (now : Int)
    (written : Bool) : (w.invalidate digests s reason now written).Sound ∧
      w.Extends (w.invalidate digests s reason now written) := by
  unfold World.invalidate
  split
  · exact ⟨sound, .of_recordings rfl⟩
  · rename_i rid at_rid
    obtain ⟨target, origin, has, captured⟩ := known.recording rid at_rid
    split
    · exact ⟨sound, .of_recordings rfl⟩
    · split
      · exact sound.freeze has captured (some reason) now written
      · exact ⟨sound, .of_recordings rfl⟩

theorem Sound.record (sound : w.Sound) (s : Session) (event : Event) :
    (w.record s event).Sound ∧ w.Extends (w.record s event) := by
  unfold World.record
  split
  · exact ⟨sound, .of_recordings rfl⟩
  · split
    · exact ⟨sound, .of_recordings rfl⟩
    · rename_i rid _ _ entry found
      obtain ⟨good, named⟩ := sound.entries rid entry found
      split
      · exact sound.put { entry with data := { entry.data with
            events := entry.data.events ++ [event]
            textVariables := entry.data.textVariables ++ event.payload.text?.toList } }
          found rfl rfl ⟨good.bound, good.reset⟩ named rfl rfl rfl rfl
      · exact ⟨sound, .of_recordings rfl⟩

end World

/-- A session whose known start, if it has one, is its last act. -/
theorem Session.Sound.act {s : Session} (sound : s.Sound w) (known : Option ResetBinding) (changed : Bool) :
    ({ s with
      geometryChanged := changed
      knownStart := known
      acts := s.acts ++ [match known with | some binding => .reset binding | none => .done] } : Session).Sound w where
  known binding at_known := by
    dsimp only at at_known ⊢
    rw [at_known, List.getLast?_concat]
  recording := sound.recording

/-- A session without a known start. -/
theorem Session.Sound.forget {s t : Session} (sound : s.Sound w) (known : t.knownStart = none)
    (recording : t.recordingId = s.recordingId) : t.Sound w where
  known binding at_known := by
    rw [known] at at_known
    cases at_known
  recording rid at_rid := sound.recording rid (recording ▸ at_rid)

theorem Session.Sound.turn {s t : Session} (sound : s.Sound w) (known : t.knownStart = s.knownStart)
    (acts : t.acts = s.acts) (recording : t.recordingId = s.recordingId) : t.Sound w where
  known binding at_known := by
    rw [acts]
    exact sound.known binding (known ▸ at_known)
  recording rid at_rid := sound.recording rid (recording ▸ at_rid)

namespace World

theorem session_ok {sid owner : String} {s : Session} {device : Device}
    (h : w.session sid owner = .ok (s, device)) :
    w.sessions.get? sid = some s ∧ s.owner = owner ∧ w.devices.get? s.deviceId = some device := by
  unfold World.session at h
  simp only [bind_eq_ok, orFail_eq_ok, require_eq_ok, pure_eq_ok] at h
  obtain ⟨s', found, _, owned, device', on, same⟩ := h
  cases same
  exact ⟨found, owned, on⟩

theorem recording_ok {rid owner : String} {r : Recording} (h : w.recording rid owner = .ok r) :
    ∃ entry, w.recordings.get? rid = some entry ∧ entry.owner = owner ∧ entry.data = r := by
  unfold World.recording at h
  simp only [bind_eq_ok, orFail_eq_ok, require_eq_ok] at h
  obtain ⟨entry, found, _, owned, h⟩ := h
  refine ⟨entry, found, owned, ?_⟩
  split at h
  · exact pure_eq_ok.mp h
  · simp only [bind_eq_ok, pure_eq_ok] at h
    obtain ⟨_, _, _, _, same⟩ := h
    exact same

end World

theorem validateRecording_ok {hash : Recording → String} {r r' : Recording}
    (h : validateRecording hash r = .ok r') : r' = r := by
  unfold validateRecording at h
  simp only [bind_eq_ok, pure_eq_ok] at h
  grind

theorem untrustedRecording_ok {hash : Recording → String} {r r' : Recording}
    (h : untrustedRecording hash r = .ok r') :
    r'.subject = r.subject ∧ r'.events = r.events ∧ r'.replayable = false := by
  unfold untrustedRecording at h
  simp only [bind_eq_ok] at h
  obtain ⟨checked, valid, again⟩ := h
  obtain rfl := validateRecording_ok valid
  rw [validateRecording_ok again]
  exact ⟨rfl, rfl, rfl⟩

theorem stretched_ids {stretch : Int → Rat → Int} {speed : Rat} {events selected : List Event}
    (h : events.mapM (stretched stretch speed) = .ok selected) :
    selected.map (·.id) = events.map (·.id) := by
  induction events generalizing selected with
  | nil =>
    obtain rfl := pure_eq_ok.mp h
    rfl
  | cons event events ih =>
    simp only [List.mapM_cons, bind_eq_ok, pure_eq_ok] at h
    obtain ⟨first, one, rest, others, rfl⟩ := h
    unfold stretched at one
    simp only [bind_eq_ok, pure_eq_ok] at one
    obtain ⟨_, _, rfl⟩ := one
    rw [List.map_cons, List.map_cons, ih others]

/-- The positions of all identities pick all events. -/
theorem all_selected {events : List Event} (nodup : (events.map (·.id)).Nodup) :
    ((events.map (·.id)).map (events.map (·.id)).idxOf).filterMap (fun index => events[index]?) = events := by
  rw [List.map_map, List.filterMap_map]
  have found : ∀ event ∈ events, events[(events.map (·.id)).idxOf event.id]? = some event := by
    intro event mem
    obtain ⟨index, lt, rfl⟩ := List.getElem_of_mem mem
    have lt' : index < (events.map (·.id)).length := by rwa [List.length_map]
    have at_index : (events.map (·.id)).idxOf (events.map (·.id))[index] = index :=
      nodup.idxOf_getElem index lt'
    rw [List.getElem_map] at at_index
    rw [at_index, List.getElem?_eq_getElem lt]
  calc
    events.filterMap ((fun index => events[index]?) ∘ (events.map (·.id)).idxOf ∘ (·.id))
      = events.filterMap some := List.filterMap_congr found
    _ = events := List.filterMap_some

/-- A replayable derivation keeps all events of its source. -/
theorem deriveRecording_ok {hash : Recording → String} {stretch : Int → Rat → Int} {source result : Recording}
    {eventIds : Option (List String)} {speed : Rat} {newId : String}
    (h : deriveRecording hash stretch source eventIds speed newId = .ok result) :
    result.target = source.target ∧
      (result.replayable = true → result.events.map (·.id) = source.events.map (·.id)) := by
  unfold deriveRecording at h
  simp only [bind_eq_ok, require_eq_ok] at h
  obtain ⟨checked, valid, _, _, _, _, _, nodup, _, _, _, _, _, _, selected, mapped, again⟩ := h
  obtain rfl := validateRecording_ok valid
  have same := validateRecording_ok again
  rw [same]
  refine ⟨rfl, fun replayable => ?_⟩
  dsimp only at replayable ⊢
  split at replayable
  · cases replayable
  · rename_i whole
    rw [not_not.mp whole] at nodup mapped
    rw [all_selected nodup] at mapped
    exact stretched_ids mapped

namespace World

theorem Sound.finishInput (sound : w.Sound) (id : Nat) (event : Event) (full : Bool) (now : Int)
    (written : Bool) : (w.finishInput digests id event full now written).Sound := by
  unfold World.finishInput
  split
  · split
    · exact sound
    · rename_i s at_sid
      have known := sound.sessions _ s at_sid
      have left := sound.leave id
      have kept : w.Extends (w.leave id) := .of_recordings rfl
      dsimp only
      have changed : ∀ c : Bool, (if c = true then (w.leave id).invalidate digests s "geometry_changed" now written
          else w.leave id).Sound ∧ w.Extends (if c = true then
            (w.leave id).invalidate digests s "geometry_changed" now written else w.leave id) := by
        intro c
        split
        · obtain ⟨sound, more⟩ := left.invalidate (known.mono kept) "geometry_changed" now written
          exact ⟨sound, kept.trans more⟩
        · exact ⟨left, kept⟩
      obtain ⟨sound', kept'⟩ := changed s.geometryChanged
      split
      · obtain ⟨sound'', more⟩ := sound'.invalidate (known.mono kept') "recording_limit" now written
        exact sound''.putSession ((known.mono (kept'.trans more)).act _ _)
      · obtain ⟨sound'', more⟩ := sound'.record s event
        exact sound''.putSession ((known.mono (kept'.trans more)).act _ _)
  · exact sound

theorem Sound.abandon (sound : w.Sound) (id : Nat) (reason : Option String) (now : Int) (written : Bool) :
    (w.abandon digests id reason now written).Sound := by
  have kept : w.Extends (w.leave id) := .of_recordings rfl
  unfold World.abandon
  split
  · split
    · rename_i s _ at_sid
      exact ((sound.leave id).invalidate ((sound.sessions _ s at_sid).mono kept) _ now written).1
    · exact sound.leave id
  · split
    · rename_i s _ at_sid
      exact ((sound.leave id).invalidate ((sound.sessions _ s at_sid).mono kept) _ now written).1
    · exact sound.leave id
  · exact sound.leave id
  · exact sound

theorem Sound.finishReset (sound : w.Sound) (id : Nat) : (w.finishReset digests id).Sound := by
  unfold World.finishReset
  split
  · split
    · exact sound
    · rename_i s at_sid
      have kept : w.Extends (w.leave id) := .of_recordings rfl
      exact (sound.leave id).putSession (((sound.sessions _ s at_sid).mono kept).act _ _)
  · exact sound

/-- A new entry. -/
theorem Sound.add (sound : w.Sound) {rid : String} {entry : Entry} (fresh : rid ∉ w.recordings.keys)
    (good : entry.Sound) (named : entry.data.id = rid) (recordings : w'.recordings = w.recordings.set rid entry)
    (sessions : ∀ sid s, w'.sessions.get? sid = some s → w.sessions.get? sid = some s ∨ s.Sound w')
    (calls : ∀ id call, w'.calls.get? id = some call → w.calls.get? id = some call)
    (accepted : w'.accepted = w.accepted) : w'.Sound := by
  have kept : w.Extends w' := fun rid' target' origin' has => by
    obtain ⟨entry', found', about⟩ := has
    refine ⟨entry', ?_, about⟩
    rw [recordings, Dict.get?_set, if_neg, found']
    rintro rfl
    exact fresh (Dict.mem_keys.mpr ⟨entry', found'⟩)
  refine sound.step kept (fun rid' entry' found' => ?_) sessions (fun id call at_id => .inl (calls id call at_id))
    fun replay mem => .inl (accepted ▸ mem)
  rw [recordings] at found'
  obtain ⟨rfl, rfl⟩ | ⟨-, old⟩ := Dict.get?_set_some found'
  · exact .inr ⟨good, named⟩
  · exact .inl old

theorem leave_get? {id id' : Nat} {call : Call} (found : (w.leave id).calls.get? id' = some call) :
    w.calls.get? id' = some call := by
  rw [World.leave, Dict.get?_erase] at found
  split at found
  · cases found
  · exact found

theorem bindingOf_eq {s : Session} {device : Device} {binding : ResetBinding}
    (on : w.devices.get? s.deviceId = some device) (h : w.bindingOf digests s = some binding) :
    binding.deviceId = s.deviceId ∧ binding.kind = device.kind ∧
      device.supportedResetContract = some binding.contract := by
  unfold World.bindingOf at h
  rw [on, Option.bind_some, resetBinding, Option.map_eq_some_iff] at h
  obtain ⟨contract, supported, rfl⟩ := h
  exact ⟨rfl, rfl, supported⟩

/-- A recording starts from the known start of its session, if that is still the one that its device
supports. -/
theorem Sound.finishStart (sound : w.Sound) (id : Nat) (rid : String) (controlled : Bool) (now : Int)
    (fresh : rid ∉ w.recordings.keys) : (w.finishStart digests id rid controlled now).Sound := by
  unfold World.finishStart
  split
  · split
    · exact sound.leave id
    · rename_i s device at_session
      obtain ⟨at_sid, -, on⟩ := session_ok at_session
      have start := sound.sessions _ s at_sid
      split
      · split
        · dsimp only
          have current : ∀ binding,
              (if s.knownStart = w.bindingOf digests s then s.knownStart else none) = some binding →
                s.acts.getLast? = some (.reset binding) ∧ w.bindingOf digests s = some binding := by
            intro binding known
            split at known
            · rename_i same
              exact ⟨start.known binding known, same ▸ known⟩
            · cases known
          generalize (if s.knownStart = w.bindingOf digests s then s.knownStart else none) = known at current
          refine sound.add fresh ?_ rfl rfl (fun sid' s' found => ?_) (fun _ _ found => leave_get? found) rfl
          · exact {
              bound := fun binding bound => by cases bound
              reset := fun _ contract reset => by
                cases known with
                | none => cases reset
                | some binding =>
                  obtain ⟨last, now_bound⟩ := current binding rfl
                  obtain ⟨deviceId, kind, supported⟩ := bindingOf_eq on now_bound
                  have same := Option.some.inj (supported.symm.trans reset)
                  exact ⟨rfl, rfl, binding, last, same, deviceId, kind⟩ }
          · obtain ⟨-, rfl⟩ | ⟨-, old⟩ := Dict.get?_set_some found
            · refine .inr {
                known := fun binding known => (current binding known).1
                recording := fun rid' at_rid => ?_ }
              cases at_rid
              exact ⟨_, _, ⟨_, Dict.get?_set_self, rfl, rfl⟩, trivial⟩
            · exact .inl old
        · exact sound.leave id
      · exact sound.leave id
  · exact sound

theorem Sound.stop (sound : w.Sound) (id : Nat) (sid owner : String) (controlled pointers : Bool) :
    (w.stop id sid owner controlled pointers).Sound := by
  unfold World.stop
  split
  · exact sound
  · rename_i s device at_session
    split
    · exact sound
    · rename_i rid at_rid
      split
      · exact sound.call ((sound.sessions _ s (session_ok at_session).1).recording rid at_rid)
      · exact sound

theorem Sound.finishStop (sound : w.Sound) (id : Nat) (controlled : Bool) (now : Int) (written : Bool) :
    (w.finishStop digests id controlled now written).Sound := by
  unfold World.finishStop
  split
  · rename_i sid rid pointers at_id
    split
    · exact sound
    · rename_i s at_sid
      split
      · obtain ⟨target, origin, has, captured⟩ := sound.calls id _ at_id
        have kept : w.Extends (w.leave id) := .of_recordings rfl
        have turned : ((w.leave id).putSession sid
            { s with geometryChanged := s.geometryChanged && pointers }).Sound :=
          (sound.leave id).putSession (((sound.sessions _ s at_sid).mono kept).turn rfl rfl rfl)
        exact (turned.freeze has captured _ now written).1
      · exact sound.leave id
  · exact sound

theorem Sound.importRecording (sound : w.Sound) (document : Recording) (owner : String) :
    (w.importRecording digests document owner).Sound := by
  unfold World.importRecording
  split
  · exact sound
  · rename_i r _
    split
    · exact sound
    · rename_i absent
      refine sound.add (Dict.get?_eq_none.mp absent) ?_ rfl rfl (fun _ _ found => .inl found)
        (fun _ _ found => found) rfl
      exact ⟨fun binding bound => (nomatch bound), fun captured => captured.elim⟩

theorem Sound.derive (sound : w.Sound) (id : Nat) (rid owner : String) (eventIds : Option (List String))
    (speed : Rat) (newId : String) : (w.derive digests id rid owner eventIds speed newId).Sound := by
  unfold World.derive
  split
  · exact sound
  · rename_i source at_source
    split
    · exact sound
    · rename_i result derived
      obtain ⟨entry, found, -, rfl⟩ := recording_ok at_source
      exact sound.call ⟨⟨entry.origin, entry, found, rfl, rfl⟩, deriveRecording_ok derived⟩

/-- A trusted source is genuine, and so is what keeps all its events. -/
theorem Sound.finishDerive (sound : w.Sound) (id : Nat) : (w.finishDerive digests id).Sound := by
  unfold World.finishDerive
  split
  · rename_i rid owner source result at_id
    obtain ⟨⟨origin, has⟩, about, whole⟩ := sound.calls id _ at_id
    split
    · exact sound.leave id
    · rename_i sourceEntry found
      obtain ⟨entry, found', about', -⟩ := has
      obtain rfl := Option.some.inj (found.symm.trans found')
      obtain ⟨good, -⟩ := sound.entries rid sourceEntry found
      dsimp only
      generalize trust : (sourceEntry.resetContract.any fun contract =>
        decide (sourceEntry.replayBinding = some (recordingBinding digests source owner contract))) = trusted
      split
      · exact sound.leave id
      · rename_i made at_made
        split
        · exact sound.leave id
        · rename_i fresh
          refine sound.add fresh ?_ rfl rfl (fun _ _ found => .inl found) (fun _ _ found => leave_get? found) rfl
          refine ⟨fun binding bound => ?_, fun captured => captured.elim⟩
          dsimp only at bound ⊢
          split at bound
          · rename_i trusts
            obtain ⟨rfl, replayable⟩ := trusts
            obtain rfl : result = made := Except.ok.inj at_made
            cases reset : sourceEntry.resetContract with
            | none =>
              rw [reset] at trust
              cases trust
            | some contract =>
              rw [reset] at trust bound
              cases bound
              obtain ⟨same, genuine⟩ := good.bound _ (of_decide_eq_true trust)
              change owner = sourceEntry.owner at same
              refine ⟨rfl, rfl, decide_eq_true (whole replayable), ?_⟩
              rw [about, ← about', same]
              exact genuine
          · cases bound
  · exact sound

theorem requireReplayBinding_ok {s : Session} {device : Device} {owner : String} {r : Recording}
    (h : w.requireReplayBinding digests s device owner r = .ok ()) :
    r.target = ⟨s.deviceId, device.kind, device.applicationIdentity⟩ ∧
      ∃ contract entry, device.supportedResetContract = some contract ∧
        w.recordings.get? r.id = some entry ∧
        entry.replayBinding = some (recordingBinding digests r owner contract) := by
  obtain ⟨⟨deviceId, kind, identity⟩, contract, supported, bound⟩ := require_eq_ok.mp h
  obtain ⟨entry, found, bound⟩ := Option.bind_eq_some_iff.mp bound
  refine ⟨?_, contract, entry, supported, found, bound⟩
  rw [← deviceId, ← kind, ← identity]
  rfl

theorem Sound.replay (sound : w.Sound) (id : Nat) (sid owner rid : String) (controlled : Bool) :
    (w.replay digests id sid owner rid controlled).Sound := by
  unfold World.replay
  split
  · exact sound
  · rename_i r checked
    unfold World.checkReplay at checked
    simp only [bind_eq_ok, pure_eq_ok] at checked
    obtain ⟨_, _, _, _, r', at_rid, _, _, _, _, _, _, _, _, rfl⟩ := checked
    obtain ⟨entry, found, -, rfl⟩ := recording_ok at_rid
    have named := (sound.entries rid entry found).2
    exact sound.call ⟨entry.origin, entry, by rw [named, found], rfl, rfl⟩

theorem Sound.finishReplay (sound : w.Sound) (id : Nat) (controlled : Bool) (now : Int) (written : Bool) :
    (w.finishReplay digests id controlled now written).Sound := by
  unfold World.finishReplay
  split
  · rename_i sid owner r at_id
    split
    · exact sound.leave id
    · rename_i s device at_session
      obtain ⟨at_sid, -, -⟩ := session_ok at_session
      split
      · rename_i entry found bound
        split
        · have kept : w.Extends (w.leave id) := .of_recordings rfl
          have known := (sound.sessions sid s at_sid).mono kept
          obtain ⟨stopped, more⟩ :
              ((w.leave id).invalidate digests s "replay_started" now written).Sound ∧ _ :=
            (sound.leave id).invalidate known "replay_started" now written
          have turned : (((w.leave id).invalidate digests s "replay_started" now written).putSession sid
              { s with mode := .replay }).Sound := stopped.putSession ((known.mono more).turn rfl rfl rfl)
          refine turned.step (.of_recordings rfl) (fun _ _ found => .inl found) (fun _ _ found => .inl found)
            (fun _ _ found => .inl found) fun replay mem => ?_
          obtain old | new := List.mem_append.mp mem
          · refine .inl ?_
            change replay ∈ ((w.leave id).invalidate digests s "replay_started" now written).accepted
            rw [invalidate_accepted]
            exact old
          · rw [List.mem_singleton.mp new]
            obtain ⟨target, contract, entry', supported, found', replayBinding⟩ := requireReplayBinding_ok bound
            obtain rfl := Option.some.inj (found.symm.trans found')
            obtain ⟨same, genuine⟩ := (sound.entries r.id entry found).1.bound _ replayBinding
            obtain ⟨origin, entry'', found'', about, -⟩ := sound.calls id _ at_id
            obtain rfl := Option.some.inj (found.symm.trans found'')
            refine .inr ⟨contract, supported, ?_⟩
            change owner = entry.owner at same
            rw [← same, about, target] at genuine
            exact genuine
        · exact sound.leave id
      · exact sound.leave id
  · exact sound

theorem loadEntries_sound {files : List (String × String × Recording)} {rid : String} {entry : Entry}
    (found : (loadEntries digests files).get? rid = some entry) : entry.Sound ∧ entry.data.id = rid := by
  induction files with
  | nil => cases found
  | cons file files ih =>
    obtain ⟨stem, owner, stored⟩ := file
    unfold loadEntries at found
    split at found
    · split at found
      · rename_i named
        obtain ⟨rfl, rfl⟩ | ⟨-, old⟩ := Dict.get?_set_some found
        · exact ⟨⟨fun _ bound => (by cases bound), fun captured => captured.elim⟩, named⟩
        · exact ih old
      · exact ih found
    · exact ih found

theorem restart_sound (devices : Dict String Device) (accepted : ∀ replay ∈ w.accepted, replay.Genuine) :
    (w.restart digests devices).Sound where
  entries _ _ found := loadEntries_sound found
  sessions _ _ found := nomatch found
  calls _ _ found := nomatch found
  accepted := accepted

theorem Sound.turn (sound : w.Sound) (sid : String) (mode : Mode) (reason : Option String) (now : Int)
    (written : Bool) : (w.turn digests sid mode reason now written).Sound := by
  unfold World.turn
  split
  · exact sound
  · rename_i s at_sid
    have known := sound.sessions sid s at_sid
    have turned : ∀ w' : World, w'.Sound → w.Extends w' → (w'.putSession sid { s with
        mode, knownStart := if mode = .playback then none else s.knownStart }).Sound := by
      intro w' sound' kept
      refine sound'.putSession ?_
      split
      · exact (known.mono kept).forget rfl rfl
      · exact (known.mono kept).turn rfl rfl rfl
    cases reason with
    | none => exact turned w sound (.of_recordings rfl)
    | some reason =>
      obtain ⟨stopped, kept⟩ : (w.invalidate digests s reason now written).Sound ∧ _ :=
        sound.invalidate known reason now written
      exact turned _ stopped kept

/-- The recording of a start has an identity that no other has. -/
def New (w : World) : Step → Prop
  | .finishStart _ rid _ _ => rid ∉ w.recordings.keys
  | _ => True

instance (w : World) : DecidablePred w.New := fun step => by
  unfold New
  split <;> infer_instance

/-- Every recording of a run is new where it is started. -/
def Distinct (digests : Digests) : World → List Step → Prop
  | _, [] => True
  | w, step :: steps => w.New step ∧ (w.apply digests step).Distinct digests steps

instance : ∀ (w : World) steps, Decidable (w.Distinct digests steps)
  | _, [] => inferInstanceAs (Decidable True)
  | w, step :: steps =>
    have := instDecidableDistinct (w.apply digests step) steps
    inferInstanceAs (Decidable (_ ∧ _))

theorem Sound.apply (sound : w.Sound) {step : Step} (fresh : w.New step) : (w.apply digests step).Sound := by
  have act : ∀ {sid : String} {s : Session}, w.sessions.get? sid = some s →
      (w.putSession sid { s with knownStart := none, acts := s.acts ++ [.admitted] }).Sound := fun at_sid =>
    sound.putSession ((sound.sessions _ _ at_sid).forget rfl rfl)
  cases step with
  | create => exact sound.putSession ⟨fun _ known => (nomatch known), fun _ at_rid => (nomatch at_rid)⟩
  | publishFrame sid =>
    dsimp only [World.apply, World.publishFrame]
    split
    · exact sound
    · rename_i s at_sid
      refine sound.putSession ?_
      split
      · exact (sound.sessions sid s at_sid).forget rfl rfl
      · exact (sound.sessions sid s at_sid).turn rfl rfl rfl
  | input id sid =>
    dsimp only [World.apply, World.input]
    split
    · exact sound
    · rename_i s at_sid
      exact (act at_sid).call trivial
  | finishInput id event full now written => exact sound.finishInput id event full now written
  | abandon id reason now written => exact sound.abandon id reason now written
  | reset id sid =>
    dsimp only [World.apply, World.reset]
    split
    · exact sound
    · rename_i s at_sid
      exact (act at_sid).call trivial
  | finishReset id => exact sound.finishReset id
  | start id sid owner controlled =>
    dsimp only [World.apply, World.start]
    split
    · exact sound
    · split
      · exact sound.call trivial
      · exact sound
  | finishStart id rid controlled now => exact sound.finishStart id rid controlled now fresh
  | stop id sid owner controlled pointers => exact sound.stop id sid owner controlled pointers
  | finishStop id controlled now written => exact sound.finishStop id controlled now written
  | importRecording document owner => exact sound.importRecording document owner
  | derive id rid owner eventIds speed newId => exact sound.derive id rid owner eventIds speed newId
  | finishDerive id => exact sound.finishDerive id
  | replay id sid owner rid controlled => exact sound.replay id sid owner rid controlled
  | finishReplay id controlled now written => exact sound.finishReplay id controlled now written
  | turn sid mode reason now written => exact sound.turn sid mode reason now written
  | configure | write =>
    exact sound.step (.of_recordings rfl) (fun _ _ found => .inl found) (fun _ _ found => .inl found)
      (fun _ _ found => .inl found) fun _ mem => .inl mem
  | restart devices => exact restart_sound devices sound.accepted

theorem Sound.run {steps : List Step} (sound : w.Sound) (distinct : w.Distinct digests steps) :
    (w.run digests steps).Sound := by
  induction steps generalizing w with
  | nil => exact sound
  | cons step steps ih => exact ih (sound.apply distinct.1) distinct.2

/-- In every run of Labs on an output directory, only genuine recordings are replayed. -/
theorem run_genuine (devices : Dict String Device) (files : Dict String (String × Recording))
    (steps : List Step) (distinct : (initial digests devices files).Distinct digests steps) :
    ∀ replay ∈ ((initial digests devices files).run digests steps).accepted, replay.Genuine :=
  ((restart_sound devices fun _ mem => absurd mem List.not_mem_nil).run distinct).accepted

end World

end

/-! A recording captured from a reset, derived at double speed and replayed. -/

section Example

open World

def demo : Device := ⟨"demo", ["tap", "reset"], none, some "sample-counter-fixture-v1", none⟩

def letters (c : Char) : String := String.ofList (List.replicate 64 c)

def digests : Digests where
  recording r := letters (if r.provenance.isSome then 'b' else 'a')
  subject subject := subject.id
  identity _ := "none"
  stretch offset speed := (offset / speed).floor

def tapped : Event :=
  ⟨"e1", .gesture (.tap 0 1), "injected", 40, "first", 1, 1, "manual", "best-effort"⟩

def derivedAndReplayed : List Step :=
  [.create "session" "owner" "device", .publishFrame "session" ⟨1, 1, "portrait"⟩, .reset 0 "session",
    .finishReset 0, .start 1 "session" "owner" true, .finishStart 1 "captured" true 5,
    .input 2 "session" false, .finishInput 2 tapped false 6 true, .stop 3 "session" "owner" true false,
    .finishStop 3 true 7 true, .derive 4 "captured" "owner" none 2 "derived", .finishDerive 4,
    .replay 5 "session" "owner" "derived" true, .finishReplay 5 true 8 true]

theorem run_genuine_derived :
    ∃ replay ∈ ((initial digests (Dict.empty.set "device" demo) .empty).run digests derivedAndReplayed).accepted,
      replay.recording.id = "derived" ∧ replay.Genuine := by
  have distinct : (initial digests (Dict.empty.set "device" demo) .empty).Distinct digests derivedAndReplayed := by
    decide +kernel
  have genuine := run_genuine (Dict.empty.set "device" demo) .empty derivedAndReplayed distinct
  have accepted : ((initial digests (Dict.empty.set "device" demo) .empty).run digests
      derivedAndReplayed).accepted.map (·.recording.id) = ["derived"] := by decide +kernel
  obtain ⟨replay, mem, named⟩ := List.mem_map.mp (accepted ▸ List.mem_singleton_self "derived")
  exact ⟨replay, mem, named, genuine replay mem⟩

end Example

end Reproof.Live.Recordings

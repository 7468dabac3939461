import Reproof.Live.RecordingSession.Outcomes

/-! What a recording collects has been approved before, each sample once. -/

namespace Reproof.Live.RecordingSession

open Contracts Library

/-- What an approved sample must have: the project collects its kind, and where samples are bound, it is that of
a token of the registration. -/
structure Registration.Allows (registration : Registration) (issuer : Nat) (tokens : List SampleClassification)
    (row : SampleRow) : Prop where
  mode : registration.captureMode ≠ .suppressed
  evidence : registration.project.evidence row.kind = true
  token : registration.captureMode = .sampleBound → ∃ token ∈ tokens, token.issuer = issuer ∧
    token.kind = row.kind ∧ row.sampleDigest = some token.sampleDigest ∧
    token.providerIncarnation = row.providerIncarnation ∧ token.nativeIncarnation = row.nativeIncarnation ∧
    token.acquisitionSequence = row.acquisitionSequence ∧ row.sampleId = some token.sampleId ∧
    token.decision = .approved

/-- The row approves these bytes. -/
structure SampleRow.Approves (python : Interpreter) (row : SampleRow) (given : Handed) : Prop where
  approved : row.approved = true
  kind : row.kind = given.kind
  sequence : row.acquisitionSequence = given.acquisitionSequence
  digest : row.sampleDigest = some (python.sha256 given.body)

/-- The kind and the sequence of a sample. -/
def Handed.key (given : Handed) : Kind × Int := (given.kind, given.acquisitionSequence)

/-- The sample that a call is going to hand over. -/
def Call.carries : Call → Option Handed
  | authorizedFrame taken .. | stampedFrame taken .. => some ⟨.pixels, taken.acquisitionSequence, taken.body⟩
  | authorizedObservation taken _ => some ⟨taken.kind, taken.acquisitionSequence, taken.body⟩
  | _ => none

/-- The token that a call has been given. -/
def Call.token : Call → Option SampleClassification
  | frame taken => taken.classification
  | observation taken => taken.classification
  | _ => none

/-- The registration that a call begins a session of. -/
def Call.begins : Call → Option Nat
  | preparing registration _ => some registration
  | _ => none

/-- The call has nothing to do with samples. -/
def Call.Plain (call : Call) : Prop := call.carries = none ∧ call.token = none ∧ call.begins = none

/-- A step that begins a session, or has to do with samples. -/
def Event.Samples : Event → Prop
  | prepare _ | recordFrame .. | authorizeFrame .. | stampFrame .. | storeFrame .. | stageFrame ..
  | recordObservation .. | authorizeObservation .. | storeObservation .. => True
  | _ => False

namespace Journal

variable {j j' : Journal}

/-- The samples of a kind get a later sequence each. -/
def Increasing (j : Journal) : Prop :=
  ∀ kind, ((j.samples.filter (·.kind = kind)).map (·.acquisitionSequence)).Pairwise (· < ·)

/-- The samples and the provider are the same. -/
structure SameSamples (j j' : Journal) : Prop where
  samples : j'.samples = j.samples
  provider : j'.row.providerIncarnation = j.row.providerIncarnation

theorem SameSamples.refl : j.SameSamples j := ⟨rfl, rfl⟩

theorem le_foldl_max {items : List Int} {item : Int} (member : item ∈ items) (start : Int) :
    item ≤ items.foldl max start := by
  rw [List.foldl_max]
  cases found : items.max? with
  | none =>
    rw [List.max?_eq_none_iff.mp found] at member
    cases member
  | some most => exact le_max_of_le_right ((List.max?_le_iff found).mp le_rfl item member)

theorem gap_sameSamples {reason : String} {offsetMs : Option Int} (done : j.gap reason offsetMs = .ok j') :
    j.SameSamples j' := by
  unfold Journal.gap at done
  split at done
  · simp only [bind_eq_ok, require_eq_ok, pure_eq_ok] at done
    obtain ⟨-, -, rfl⟩ := done
    exact ⟨rfl, rfl⟩
  · cases done
    exact .refl

theorem appendLifecycle_sameSamples {operationId : String} {generation observedAtMs : Int} {kind : LifecycleKind}
    {status : LifecycleStatus} (done : j.appendLifecycle operationId generation kind status observedAtMs = .ok j') :
    j.SameSamples j' := by
  rw [(appendLifecycle_ok done).1.same]
  exact ⟨rfl, rfl⟩

theorem recordReceipt_sameSamples {operationId : String} {status : Dispatch} {errorCode : Option String}
    {stamp : Stamp} {receipt : InputReceipt}
    (done : j.recordReceipt operationId status errorCode stamp = .ok (j', receipt)) : j.SameSamples j' := by
  rw [recordReceipt_frame done]
  exact ⟨rfl, rfl⟩

theorem commitOriginal_sameSamples {original : OriginalEvidence} {digest objectDigest : String} {recovery : Bool}
    (done : j.commitOriginal original digest objectDigest recovery = .ok j') : j.SameSamples j' := by
  rw [commitOriginal_frame done]
  exact ⟨rfl, rfl⟩

theorem insertFrame_sameSamples {digest path mimeType : String} {bytes : Int} {timing : Timing}
    (done : j.insertFrame digest path bytes mimeType timing = .ok j') : j.SameSamples j' := by
  simp only [Journal.insertFrame, bind_eq_ok, require_eq_ok, pure_eq_ok] at done
  obtain ⟨-, -, -, -, rfl⟩ := done
  exact ⟨rfl, rfl⟩

theorem insertObservation_sameSamples {digest path mimeType : String} {bytes : Int}
    (done : j.insertObservation digest path bytes mimeType = .ok j') : j.SameSamples j' := by
  simp only [Journal.insertObservation, bind_eq_ok, require_eq_ok, pure_eq_ok] at done
  obtain ⟨-, -, -, -, rfl⟩ := done
  exact ⟨rfl, rfl⟩

theorem insertSource_sameSamples {row : SourceRow} (done : j.insertSource row = .ok j') : j.SameSamples j' := by
  simp only [Journal.insertSource, bind_eq_ok, require_eq_ok, pure_eq_ok] at done
  obtain ⟨-, -, -, -, rfl⟩ := done
  exact ⟨rfl, rfl⟩

theorem useFrameSpool_sameSamples (done : j.useFrameSpool = .ok j') : j.SameSamples j' := by
  simp only [Journal.useFrameSpool, bind_eq_ok, require_eq_ok, pure_eq_ok] at done
  obtain ⟨-, -, rfl⟩ := done
  exact ⟨rfl, rfl⟩

theorem attachVideo_sameSamples {checked : List MediaRow} {incompleteReason manifest : Option String}
    (done : j.attachVideo checked incompleteReason manifest = .ok j') : j.SameSamples j' := by
  simp only [Journal.attachVideo, bind_eq_ok, require_eq_ok, pure_eq_ok] at done
  obtain ⟨-, -, -, -, -, -, -, -, -, -, rfl⟩ := done
  exact ⟨rfl, rfl⟩

/-- A sample that is put into the samples is later than all of its kind. -/
theorem recordSample_ok {row : SampleRow} (done : j.recordSample row = .ok j') :
    j' = { j with samples := j.samples ++ [row] } ∧
      ∀ old ∈ j.samples, old.kind = row.kind → old.providerIncarnation = row.providerIncarnation →
        old.acquisitionSequence < row.acquisitionSequence := by
  simp only [Journal.recordSample, bind_eq_ok, require_eq_ok, pure_eq_ok] at done
  obtain ⟨-, later, -, -, rfl⟩ := done
  refine ⟨rfl, fun old member kind provider => lt_of_le_of_lt (le_foldl_max ?_ 0) later⟩
  exact List.mem_map.mpr ⟨old, List.mem_filter.mpr ⟨member, decide_eq_true ⟨kind, provider⟩⟩, rfl⟩

end Journal

namespace World

variable {host : Host} {w w' w'' : World} {id : Nat}

/-- A step that leaves samples alone: no call gets one, and none is handed over. -/
structure Idle (w w' : World) : Prop where
  journal : w.journal.SameSamples w'.journal
  registrations : w.registrations <+: w'.registrations
  tokens : w.tokens ⊆ w'.tokens
  handed : w'.handed = w.handed
  session : ∀ s' ∈ w'.session, ∃ s ∈ w.session, s'.registration = s.registration
  calls : ∀ id call, w'.calls.get? id = some call → call.Plain ∨ w.calls.get? id = some call

namespace Idle

theorem of_same (journal : w.journal.SameSamples w'.journal) (handed : w'.handed = w.handed)
    (registrations : w'.registrations = w.registrations) (tokens : w'.tokens = w.tokens)
    (session : w'.session = w.session) (calls : w'.calls = w.calls) : w.Idle w' where
  journal := journal
  registrations := by rw [registrations]
  tokens := by
    rw [tokens]
    exact fun _ member => member
  handed := handed
  session s' alive := ⟨s', session ▸ alive, rfl⟩
  calls _ _ found := .inr (calls ▸ found)

theorem refl : w.Idle w := of_same .refl rfl rfl rfl rfl rfl

theorem trans (first : w.Idle w') (second : w'.Idle w'') : w.Idle w'' where
  journal := ⟨second.journal.samples.trans first.journal.samples, second.journal.provider.trans first.journal.provider⟩
  registrations := first.registrations.trans second.registrations
  tokens _ member := second.tokens (first.tokens member)
  handed := second.handed.trans first.handed
  session s'' alive := by
    obtain ⟨s', alive', same'⟩ := second.session s'' alive
    obtain ⟨s, alive, same⟩ := first.session s' alive'
    exact ⟨s, alive, same'.trans same⟩
  calls id call found := by
    obtain plain | found := second.calls id call found
    · exact .inl plain
    · exact first.calls id call found

theorem put {j : Journal} (same : w.journal.SameSamples j) : w.Idle (w.put j) := of_same same rfl rfl rfl rfl rfl

theorem commit {result : Except String Journal} (same : ∀ j, result = .ok j → w.journal.SameSamples j) :
    w.Idle (w.commit result) := by
  unfold World.commit
  split
  · exact put (same _ rfl)
  · exact refl

theorem gap (reason : String) (offsetMs : Option Int) : w.Idle (w.gap reason offsetMs) :=
  commit fun _ => Journal.gap_sameSamples

theorem noStamp : w.Idle w.noStamp := gap ..

theorem pins (pins : Finset String) : w.Idle { w with pins } := of_same .refl rfl rfl rfl rfl rfl

theorem opened (opened : Bool) : w.Idle { w with opened } := of_same .refl rfl rfl rfl rfl rfl

theorem call {call : Call} (plain : call.Plain) : w.Idle (w.call id call) where
  journal := .refl
  registrations := List.prefix_rfl
  tokens := fun _ member => member
  handed := rfl
  session s alive := ⟨s, alive, rfl⟩
  calls id' call' found := by
    obtain ⟨-, rfl⟩ | ⟨-, old⟩ := Dict.get?_set_some found
    · exact .inl plain
    · exact .inr old

theorem leave : w.Idle (w.leave id) where
  journal := .refl
  registrations := List.prefix_rfl
  tokens := fun _ member => member
  handed := rfl
  session s alive := ⟨s, alive, rfl⟩
  calls id' call found := by
    rw [World.leave, Dict.get?_erase] at found
    split at found
    · cases found
    · exact .inr found

theorem session' {session : Option Session}
    (same : ∀ s' ∈ session, ∃ s ∈ w.session, s'.registration = s.registration) : w.Idle { w with session } :=
  ⟨.refl, List.prefix_rfl, fun _ member => member, rfl, same, fun _ _ found => .inr found⟩

theorem endCollection : w.Idle (w.endCollection id) := by
  refine leave.trans (session' fun s' alive => ?_)
  obtain ⟨s, found, rfl⟩ := Option.map_eq_some_iff.mp alive
  exact ⟨s, found, rfl⟩

end Idle

/-- A call at hand has a sample to hand over. -/
def Carries (w : World) (id : Nat) (given : Handed) : Prop :=
  ∃ call, w.calls.get? id = some call ∧ call.carries = some given

/-- The samples of a recording of this registration, the calls that have one, and what has been handed over. -/
structure Sampled (host : Host) (issuer : Nat) (registration : Registration) (w : World) : Prop where
  registered : w.registrations[issuer]? = some registration
  own : ∀ s ∈ w.session, s.registration = issuer
  begins : ∀ id call own, w.calls.get? id = some call → call.begins = some own → own = issuer
  issued : ∀ id call, w.calls.get? id = some call → ∀ token ∈ call.token, token.issuer = issuer → token ∈ w.tokens
  provider : ∀ row ∈ w.journal.samples, row.providerIncarnation = w.journal.row.providerIncarnation
  allowed : ∀ row ∈ w.journal.samples, row.approved = true → registration.Allows issuer w.tokens row
  increasing : w.journal.Increasing
  approved : ∀ given, given ∈ w.handed ∨ (∃ id, w.Carries id given) →
    ∃ row ∈ w.journal.samples, row.Approves host.python given
  once : (w.handed.map Handed.key).Nodup
  fresh : ∀ id given, w.Carries id given → given.key ∉ w.handed.map Handed.key ∧
    ∀ id' given', w.Carries id' given' → given'.key = given.key → id' = id

namespace Sampled

variable {issuer : Nat} {registration : Registration}

theorem Idle.carries (idle : w.Idle w') {given : Handed} (carries : w'.Carries id given) : w.Carries id given := by
  obtain ⟨call, found, carries⟩ := carries
  obtain plain | old := idle.calls id call found
  · rw [plain.1] at carries
    cases carries
  · exact ⟨call, old, carries⟩

theorem Allows.mono {tokens tokens' : List SampleClassification} {row : SampleRow}
    (allows : registration.Allows issuer tokens row) (more : tokens ⊆ tokens') :
    registration.Allows issuer tokens' row :=
  ⟨allows.mode, allows.evidence, fun bound => by
    obtain ⟨token, member, about⟩ := allows.token bound
    exact ⟨token, more member, about⟩⟩

theorem idle (sampled : w.Sampled host issuer registration) (idle : w.Idle w') :
    w'.Sampled host issuer registration where
  registered := by
    obtain ⟨more, same⟩ := idle.registrations
    rw [← same, List.getElem?_append_left (List.getElem?_eq_some_iff.mp sampled.registered).1]
    exact sampled.registered
  own s' alive := by
    obtain ⟨s, alive, same⟩ := idle.session s' alive
    exact same.trans (sampled.own s alive)
  begins id call own found begins := by
    obtain plain | old := idle.calls id call found
    · rw [plain.2.2] at begins
      cases begins
    · exact sampled.begins id call own old begins
  issued id call found token given mine := by
    obtain plain | old := idle.calls id call found
    · rw [plain.2.1] at given
      cases given
    · exact idle.tokens (sampled.issued id call old token given mine)
  provider := by
    rw [idle.journal.samples, idle.journal.provider]
    exact sampled.provider
  allowed := by
    rw [idle.journal.samples]
    exact fun row member approved => Allows.mono (sampled.allowed row member approved) idle.tokens
  increasing := by
    rw [Journal.Increasing, idle.journal.samples]
    exact sampled.increasing
  approved given had := by
    rw [idle.journal.samples]
    rw [idle.handed] at had
    exact sampled.approved given (had.imp_right fun ⟨id, carries⟩ => ⟨id, Idle.carries idle carries⟩)
  once := by
    rw [idle.handed]
    exact sampled.once
  fresh id given carries := by
    rw [idle.handed]
    obtain ⟨new, only⟩ := sampled.fresh id given (Idle.carries idle carries)
    exact ⟨new, fun id' given' carries' => only id' given' (Idle.carries idle carries')⟩

/-- A call goes on with what it has. -/
theorem goOn (sampled : w.Sampled host issuer registration) {call new : Call} (at_id : w.calls.get? id = some call)
    (carries : new.carries = call.carries) (token : new.token = none) (begins : new.begins = none) :
    (w.call id new).Sampled host issuer registration := by
  have same {id' : Nat} {given : Handed} (has : (w.call id new).Carries id' given) : w.Carries id' given := by
    obtain ⟨call', found, carries'⟩ := has
    obtain ⟨rfl, rfl⟩ | ⟨-, old⟩ := Dict.get?_set_some found
    · exact ⟨call, at_id, carries ▸ carries'⟩
    · exact ⟨call', old, carries'⟩
  refine ⟨sampled.registered, sampled.own, fun id' call' own found begins' => ?_, fun id' call' found token' given => ?_,
    sampled.provider, sampled.allowed, sampled.increasing, fun given had => ?_, sampled.once,
    fun id' given has => ?_⟩
  · obtain ⟨-, rfl⟩ | ⟨-, old⟩ := Dict.get?_set_some found
    · rw [begins] at begins'
      cases begins'
    · exact sampled.begins id' call' own old begins'
  · obtain ⟨-, rfl⟩ | ⟨-, old⟩ := Dict.get?_set_some found
    · rw [token] at given
      cases given
    · exact sampled.issued id' call' old token' given
  · exact sampled.approved given (had.imp_right fun ⟨id', has⟩ => ⟨id', same has⟩)
  · obtain ⟨new_, only⟩ := sampled.fresh id' given (same has)
    exact ⟨new_, fun id'' given' has' => only id'' given' (same has')⟩

/-- A call begins with a token that has been issued. -/
theorem beginCollection (sampled : w.Sampled host issuer registration) {call : Call} (carries : call.carries = none)
    (begins : call.begins = none) (issued : w.Issued call.token) :
    (w.beginCollection id call).Sampled host issuer registration := by
  unfold World.beginCollection
  split
  · rename_i s at_session
    split
    · have mine : s.registration = issuer := sampled.own s at_session
      have same {id' : Nat} {given : Handed} (has : (w.call id call).Carries id' given) : w.Carries id' given := by
        obtain ⟨call', found, carries'⟩ := has
        obtain ⟨-, rfl⟩ | ⟨-, old⟩ := Dict.get?_set_some found
        · rw [carries] at carries'
          cases carries'
        · exact ⟨call', old, carries'⟩
      refine ⟨sampled.registered, fun s' alive => ?_, fun id' call' own found begins' => ?_,
        fun id' call' found token given same_issuer => ?_, sampled.provider, sampled.allowed, sampled.increasing,
        fun given had => sampled.approved given (had.imp_right fun ⟨id', has⟩ => ⟨id', same has⟩), sampled.once,
        fun id' given has => ?_⟩
      · rw [← Option.some.inj alive]
        exact mine
      · obtain ⟨-, rfl⟩ | ⟨-, old⟩ := Dict.get?_set_some found
        · rw [begins] at begins'
          cases begins'
        · exact sampled.begins id' call' own old begins'
      · obtain ⟨-, rfl⟩ | ⟨-, old⟩ := Dict.get?_set_some found
        · exact issued token given (by rw [at_session, Option.map_some, mine, same_issuer])
        · exact sampled.issued id' call' old token given same_issuer
      · obtain ⟨new, only⟩ := sampled.fresh id' given (same has)
        exact ⟨new, fun id'' given' has' => only id'' given' (same has')⟩
    · exact sampled
  · exact sampled

/-- A call hands over the sample that it has, and is done with it. -/
theorem handOn (sampled : w.Sampled host issuer registration) {given : Handed} (carries : w.Carries id given)
    (idle : w.Idle w') (gone : ∀ given, ¬ w'.Carries id given) :
    (w'.hand given.kind given.acquisitionSequence given.body).Sampled host issuer registration := by
  have after := sampled.idle idle
  obtain ⟨new, only⟩ := sampled.fresh id given carries
  refine ⟨after.registered, after.own, after.begins, after.issued, after.provider, after.allowed, after.increasing,
    fun given' had => ?_, ?_, fun id' given' has => ?_⟩
  · obtain member | has := had
    · obtain old | fresh := List.mem_append.mp member
      · exact after.approved given' (.inl old)
      · rw [List.mem_singleton.mp fresh]
        obtain ⟨row, member, approves⟩ := sampled.approved given (.inr ⟨id, carries⟩)
        exact ⟨row, idle.journal.samples ▸ member, approves⟩
    · exact after.approved given' (.inr has)
  · dsimp only [World.hand]
    rw [List.map_append, List.nodup_append, idle.handed]
    refine ⟨sampled.once, List.nodup_singleton _, fun key old fresh found same => ?_⟩
    obtain rfl := List.mem_singleton.mp found
    exact new (same ▸ old)
  · obtain ⟨fresh, alone⟩ := after.fresh id' given' has
    refine ⟨fun member => ?_, alone⟩
    dsimp only [World.hand] at member
    rw [List.map_append] at member
    obtain old | same := List.mem_append.mp member
    · exact fresh old
    · have here : id' = id := only id' given' (Idle.carries idle has) (List.mem_singleton.mp same)
      exact gone given' (here ▸ has)

/-- The row that `_authorize_sample` makes. -/
theorem sampleRow_ok {kind : Kind} {digest : String} {acquisitionSequence : Int}
    {classification : Option SampleClassification} {nativeIncarnation : Option String} {row : SampleRow}
    (made : w.sampleRow registration issuer kind digest acquisitionSequence classification nativeIncarnation = row)
    (issued : ∀ token ∈ classification, token.issuer = issuer → token ∈ w.tokens) :
    row.kind = kind ∧ row.providerIncarnation = w.journal.row.providerIncarnation ∧
      row.acquisitionSequence = acquisitionSequence ∧
      (row.approved = true → row.sampleDigest = some digest ∧ registration.Allows issuer w.tokens row) := by
  unfold World.sampleRow at made
  dsimp only at made
  split at made
  · rename_i evidence
    split at made
    · rename_i mode
      subst made
      refine ⟨rfl, rfl, rfl, fun _ => ⟨rfl, ?_, evidence, fun bound => ?_⟩⟩
      · rw [mode]
        nofun
      · rw [mode] at bound
        cases bound
    · rename_i token mode
      split at made
      · rename_i checked
        obtain ⟨mine, same_kind, same_digest, provider, sequence, -, decision⟩ := checked
        subst made
        refine ⟨rfl, rfl, rfl, fun _ => ⟨rfl, ?_, evidence, fun _ => ⟨token, issued token rfl mine, mine, same_kind, ?_,
          provider, rfl, sequence, rfl, decision⟩⟩⟩
        · rw [mode]
          nofun
        · rw [same_digest]
      · subst made
        exact ⟨rfl, rfl, rfl, nofun⟩
    · subst made
      exact ⟨rfl, rfl, rfl, nofun⟩
  · subst made
    exact ⟨rfl, rfl, rfl, nofun⟩

/-- A sample gets its row, and the call has it from then on when it is approved. -/
theorem recordSample (sampled : w.Sampled host issuer registration) {row : SampleRow} {j : Journal}
    (done : w.journal.recordSample row = .ok j) (provider : row.providerIncarnation = w.journal.row.providerIncarnation)
    (allowed : row.approved = true → registration.Allows issuer w.tokens row) :
    (w.put j).Sampled host issuer registration ∧
      ∀ given : Handed, (given ∈ w.handed ∨ ∃ id, w.Carries id given) → given.kind = row.kind →
        given.acquisitionSequence ≠ row.acquisitionSequence := by
  obtain ⟨rfl, later⟩ := Journal.recordSample_ok done
  refine ⟨⟨sampled.registered, sampled.own, sampled.begins, sampled.issued, fun old member => ?_,
    fun old member approved => ?_, fun kind => ?_, fun given had => ?_, sampled.once, sampled.fresh⟩,
    fun given had kind same => ?_⟩
  · obtain member | new := List.mem_append.mp member
    · exact sampled.provider old member
    · rw [List.mem_singleton.mp new]
      exact provider
  · obtain member | new := List.mem_append.mp member
    · exact sampled.allowed old member approved
    · rw [List.mem_singleton.mp new] at approved ⊢
      exact allowed approved
  · dsimp only [World.put]
    rw [List.filter_append, List.map_append, List.pairwise_append]
    refine ⟨sampled.increasing kind, ?_, fun first member second found => ?_⟩
    · rw [List.filter_singleton]
      cases decide (row.kind = kind) with
      | true => exact List.pairwise_singleton ..
      | false => exact List.Pairwise.nil
    · obtain ⟨old, kept, rfl⟩ := List.mem_map.mp member
      obtain ⟨new, fresh, rfl⟩ := List.mem_map.mp found
      obtain ⟨earlier, same⟩ := List.mem_filter.mp kept
      obtain ⟨here, same'⟩ := List.mem_filter.mp fresh
      rw [List.mem_singleton.mp here] at same' ⊢
      exact later old earlier ((of_decide_eq_true same).trans (of_decide_eq_true same').symm)
        ((sampled.provider old earlier).trans provider.symm)
  · obtain ⟨old, member, approves⟩ := sampled.approved given had
    exact ⟨old, List.mem_append_left _ member, approves⟩
  · obtain ⟨old, member, approves⟩ := sampled.approved given had
    have earlier := later old member (approves.kind.trans kind) ((sampled.provider old member).trans provider.symm)
    rw [approves.sequence, same] at earlier
    exact lt_irrefl _ earlier

/-- A call gets a sample that nothing else has had. -/
theorem take (sampled : w.Sampled host issuer registration) {call : Call} {given : Handed}
    (carries : call.carries = some given) (token : call.token = none) (begins : call.begins = none)
    {row : SampleRow} (member : row ∈ w.journal.samples) (approves : row.Approves host.python given)
    (fresh : ∀ other : Handed, (other ∈ w.handed ∨ ∃ id, w.Carries id other) → other.key ≠ given.key) :
    (w.call id call).Sampled host issuer registration := by
  have has {id' : Nat} {other : Handed} (carried : (w.call id call).Carries id' other) :
      id' = id ∧ other = given ∨ w.Carries id' other := by
    obtain ⟨call', found, carried⟩ := carried
    obtain ⟨rfl, rfl⟩ | ⟨-, old⟩ := Dict.get?_set_some found
    · exact .inl ⟨rfl, Option.some.inj (carried.symm.trans carries)⟩
    · exact .inr ⟨call', old, carried⟩
  refine ⟨sampled.registered, sampled.own, fun id' call' own found begins' => ?_, fun id' call' found token' had => ?_,
    sampled.provider, sampled.allowed, sampled.increasing, fun other had => ?_, sampled.once,
    fun id' other carried => ?_⟩
  · obtain ⟨-, rfl⟩ | ⟨-, old⟩ := Dict.get?_set_some found
    · rw [begins] at begins'
      cases begins'
    · exact sampled.begins id' call' own old begins'
  · obtain ⟨-, rfl⟩ | ⟨-, old⟩ := Dict.get?_set_some found
    · rw [token] at had
      cases had
    · exact sampled.issued id' call' old token' had
  · obtain old | ⟨id', carried⟩ := had
    · exact sampled.approved other (.inl old)
    · obtain ⟨-, rfl⟩ | old := has carried
      · exact ⟨row, member, approves⟩
      · exact sampled.approved other (.inr ⟨id', old⟩)
  · obtain ⟨rfl, rfl⟩ | old := has carried
    · refine ⟨fun handed => ?_, fun id'' other' carried' same => ?_⟩
      · obtain ⟨other', handed, same⟩ := List.mem_map.mp handed
        exact fresh other' (.inl handed) same
      · obtain ⟨same_id, -⟩ | old := has carried'
        · exact same_id
        · exact absurd same (fresh other' (.inr ⟨id'', old⟩))
    · obtain ⟨new, only⟩ := sampled.fresh id' other old
      refine ⟨new, fun id'' other' carried' same => ?_⟩
      obtain ⟨-, rfl⟩ | old' := has carried'
      · exact absurd same.symm (fresh other (.inr ⟨id', old⟩))
      · exact only id'' other' old' same

theorem authorize (sampled : w.Sampled host issuer registration) {kind : Kind} {body : Bytes}
    {acquisitionSequence : Int} {classification : Option SampleClassification} {nativeIncarnation : Option String}
    {sample : Option Sample} {next : String → String → Call}
    (issued : ∀ token ∈ classification, token.issuer = issuer → token ∈ w.tokens)
    (carries : ∀ digest native, (next digest native).carries = some ⟨kind, acquisitionSequence, body⟩)
    (token : ∀ digest native, (next digest native).token = none)
    (begins : ∀ digest native, (next digest native).begins = none) :
    (w.authorize host id kind body acquisitionSequence classification nativeIncarnation sample next).Sampled host
      issuer registration := by
  unfold World.authorize
  split
  · rename_i s mine at_session at_registration
    obtain ⟨_, found, registered⟩ := Option.bind_eq_some_iff.mp at_registration
    obtain rfl := Option.some.inj (at_session.symm.trans found)
    rw [sampled.own s at_session, sampled.registered] at registered
    obtain rfl := Option.some.inj registered
    rw [sampled.own s at_session]
    dsimp only
    generalize made : w.sampleRow registration issuer kind (host.python.sha256 body) acquisitionSequence classification
      nativeIncarnation = row
    obtain ⟨same_kind, provider, sequence, allowed⟩ := sampleRow_ok made issued
    split
    · split
      · split
        · rename_i j done
          obtain ⟨after, earlier⟩ := sampled.recordSample done provider fun approved => (allowed approved).2
          split
          · rename_i approved
            have member : row ∈ (w.put j).journal.samples := by
              obtain ⟨rfl, -⟩ := Journal.recordSample_ok done
              exact List.mem_append_right _ (List.mem_singleton_self _)
            refine after.take (carries _ _) (token _ _) (begins _ _) member
              ⟨approved, same_kind, sequence, (allowed approved).1⟩ fun other had same => ?_
            obtain ⟨other_kind, other_sequence⟩ := Prod.mk.inj same
            exact earlier other had (other_kind.trans same_kind.symm) (other_sequence.trans sequence.symm)
          · exact after.idle ((Idle.gap ..).trans .endCollection)
        · exact sampled.idle .endCollection
      · exact sampled.idle .endCollection
    · exact sampled.idle .endCollection
  · exact sampled

theorem prepare (sampled : w.Sampled host issuer registration) (id : Nat) :
    (w.prepare id).Sampled host issuer registration := by
  unfold World.prepare
  split
  · rename_i mine preparation at_id
    have same : w.journal.SameSamples (w.journal.prepared preparation) := by
      unfold Journal.prepared
      split
      · exact ⟨rfl, rfl⟩
      · exact .refl
    have left : w.Idle ((w.put (w.journal.prepared preparation)).leave id) := (Idle.put same).trans .leave
    have after := sampled.idle left
    refine ⟨after.registered, fun s alive => ?_, after.begins, after.issued, after.provider, after.allowed,
      after.increasing, after.approved, after.once, after.fresh⟩
    rw [← Option.some.inj alive]
    exact sampled.begins id _ mine at_id rfl
  · exact sampled

theorem stampFrame (sampled : w.Sampled host issuer registration) (id : Nat) (sample : Option Sample) :
    (w.stampFrame host id sample).Sampled host issuer registration := by
  unfold World.stampFrame
  split
  · rename_i frame digest native s at_id at_session
    split
    · exact sampled.idle ((Idle.gap ..).trans .endCollection)
    · split
      · split
        · exact sampled.goOn at_id rfl rfl rfl
        · exact sampled.idle .endCollection
      · exact sampled.idle (Idle.noStamp.trans .endCollection)
      · exact sampled.idle .endCollection
  · exact sampled

theorem gap_hand (kind : Kind) (acquisitionSequence : Int) (body : Bytes) (reason : String) (offsetMs : Option Int) :
    (w.hand kind acquisitionSequence body).gap reason offsetMs =
      (w.gap reason offsetMs).hand kind acquisitionSequence body := by
  unfold World.gap World.commit
  dsimp only [World.hand]
  split
  · rfl
  · rfl

theorem not_carries_call {call : Call} (empty : call.carries = none) (given : Handed) :
    ¬ (w.call id call).Carries id given := by
  rintro ⟨call', found, carries⟩
  rw [World.call, Dict.get?_set_self] at found
  obtain rfl := Option.some.inj found
  rw [empty] at carries
  cases carries

theorem not_carries_endCollection (given : Handed) : ¬ (w.endCollection id).Carries id given := by
  rintro ⟨call', found, -⟩
  dsimp only [World.endCollection, World.leave] at found
  rw [Dict.get?_erase, if_pos rfl] at found
  cases found

theorem storeFrame (sampled : w.Sampled host issuer registration) (id : Nat) (stored : Bool) :
    (w.storeFrame id stored).Sampled host issuer registration := by
  unfold World.storeFrame
  split
  · rename_i frame digest timing s at_id at_session
    have carries : w.Carries id ⟨.pixels, frame.acquisitionSequence, frame.body⟩ := ⟨_, at_id, rfl⟩
    split
    · have gapped : w.Idle (if frame.nativeSequenceGap.isSome then w.gap "native_frame_gap" (some timing.offsetMs)
          else w) := by
        split
        · exact .gap ..
        · exact .refl
      dsimp only
      split
      · exact sampled.handOn carries (gapped.trans (.call ⟨rfl, rfl, rfl⟩)) (not_carries_call rfl)
      · rw [gap_hand]
        exact sampled.handOn carries ((gapped.trans (.gap ..)).trans .endCollection) not_carries_endCollection
    · exact sampled
  · exact sampled

theorem stageFrame (sampled : w.Sampled host issuer registration) (id : Nat) (staged : Bool) :
    (w.stageFrame id staged).Sampled host issuer registration := by
  unfold World.stageFrame
  split
  · rename_i frame digest timing s at_id at_session
    have carries : w.Carries id ⟨.pixels, frame.acquisitionSequence, frame.body⟩ := ⟨_, at_id, rfl⟩
    split
    · split
      · dsimp only
        split
        · exact sampled.handOn carries (.call ⟨rfl, rfl, rfl⟩) (not_carries_call rfl)
        · rw [gap_hand]
          exact sampled.handOn carries ((Idle.gap ..).trans .endCollection) not_carries_endCollection
      · exact sampled.idle .endCollection
    · exact sampled
  · exact sampled

theorem storeObservation (sampled : w.Sampled host issuer registration) (id : Nat) (sample : Option Sample)
    (stored : Bool) : (w.storeObservation id sample stored).Sampled host issuer registration := by
  unfold World.storeObservation
  split
  · rename_i observation digest at_id
    have carries : w.Carries id ⟨observation.kind, observation.acquisitionSequence, observation.body⟩ :=
      ⟨_, at_id, rfl⟩
    split
    · dsimp only
      split
      · exact sampled.handOn carries (.call ⟨rfl, rfl, rfl⟩) (not_carries_call rfl)
      · rw [gap_hand]
        exact sampled.handOn carries ((Idle.gap ..).trans .endCollection) not_carries_endCollection
    · exact sampled.idle (Idle.noStamp.trans .endCollection)
  · exact sampled

end Sampled

theorem startFreeze_idle {recovery : Bool} : w.Idle (w.startFreeze host id recovery) := by
  unfold World.startFreeze
  split
  · split
    · exact .call ⟨rfl, rfl, rfl⟩
    · exact .refl
  · exact .refl

theorem stopBarrier_idle {reason : Option String} {sample : Option Sample} : w.Idle (w.stopBarrier reason sample) := by
  have stopped {w : World} (offsetMs : Option Int) (reason : Option String) :
      w.Idle (w.commit (w.journal.stopBarrier offsetMs reason)) := by
    refine .commit fun j done => ?_
    unfold Journal.stopBarrier at done
    split at done
    · cases done
      exact .refl
    · simp only [bind_eq_ok, require_eq_ok, pure_eq_ok] at done
      obtain ⟨-, -, rfl⟩ := done
      exact ⟨rfl, rfl⟩
  unfold World.stopBarrier
  split
  · rename_i s at_session
    split
    · have barred : w.Idle { w with session := some { s with admissionsBarred := true } } :=
        .session' fun s' alive => ⟨s, at_session, by rw [← Option.some.inj alive]⟩
      dsimp only
      split
      · exact barred.trans (stopped ..)
      · exact barred.trans (stopped ..)
    · exact .refl
  · exact .refl

theorem useFrameSpool_idle : w.Idle w.useFrameSpool := by
  unfold World.useFrameSpool
  split
  · rename_i s at_session
    split
    · split
      · rename_i j done
        exact (Idle.put (Journal.useFrameSpool_sameSamples done)).trans (.session' fun s' alive => ⟨s, at_session, by rw [← Option.some.inj alive]⟩)
      · exact .refl
    · exact .refl
  · exact .refl

theorem attachFrameSink_idle : w.Idle w.attachFrameSink := by
  unfold World.attachFrameSink
  split
  · rename_i s at_session
    split
    · exact .session' fun s' alive => ⟨s, at_session, by rw [← Option.some.inj alive]⟩
    · exact .refl
  · exact .refl

theorem classify_idle {token : SampleClassification} : w.Idle (w.classify token) := by
  unfold World.classify
  split
  · split
    · exact ⟨.refl, List.prefix_rfl, List.subset_append_left .., rfl, fun s alive => ⟨s, alive, rfl⟩,
        fun _ _ found => .inr found⟩
    · exact .refl
  · exact .refl

theorem admitInput_idle {operationId providerIncarnation : String} {generation : Int} {input : Input}
    {sample : Option Sample} : w.Idle (w.admitInput host operationId generation providerIncarnation input sample) := by
  unfold World.admitInput
  split
  · split
    · split
      · split
        · refine .commit fun j done => ?_
          simp only [Journal.admitInput, bind_eq_ok, require_eq_ok, pure_eq_ok] at done
          obtain ⟨-, -, -, -, -, -, -, -, -, -, rfl⟩ := done
          exact ⟨rfl, rfl⟩
        · exact .refl
      · exact .noStamp
    · exact .refl
  · exact .refl

theorem recordReceipt_idle {operationId : String} {status : Dispatch} {errorCode : Option String}
    {sample : Option Sample} : w.Idle (w.recordReceipt operationId status errorCode sample) := by
  unfold World.recordReceipt
  split
  · split
    · split
      · rename_i done
        exact .of_same (Journal.recordReceipt_sameSamples done) rfl rfl rfl rfl rfl
      · exact .refl
    · exact .noStamp
  · exact .refl

theorem reopen_idle : w.Idle (w.reopen host id) := by
  unfold World.reopen
  split
  · split
    · exact .opened _
    · have recovered : w.Idle (w.put w.journal.recover) := by
        refine .put ?_
        unfold Journal.recover
        split
        · exact .refl
        · exact ⟨rfl, rfl⟩
      dsimp only
      split
      · exact recovered.trans (.opened _)
      · exact recovered.trans startFreeze_idle
  · exact .refl

theorem apply_idle {event : Event} (other : ¬ event.Samples) : w.Idle (w.apply host event) := by
  cases event with
  | prepare | recordFrame | authorizeFrame | stampFrame | storeFrame | stageFrame | recordObservation
  | authorizeObservation | storeObservation => exact absurd trivial other
  | register =>
    exact ⟨.refl, List.prefix_append .., fun _ member => member, rfl, fun s alive => ⟨s, alive, rfl⟩,
      fun _ _ found => .inr found⟩
  | classify => exact classify_idle
  | admitInput => exact admitInput_idle
  | markDispatched =>
    dsimp only [World.apply]
    unfold World.markDispatched
    split
    · refine .commit fun j done => ?_
      simp only [Journal.markDispatched, bind_eq_ok, require_eq_ok, pure_eq_ok] at done
      obtain ⟨-, -, -, -, rfl⟩ := done
      exact ⟨rfl, rfl⟩
    · exact .refl
  | recordReceipt => exact recordReceipt_idle
  | declareGap =>
    dsimp only [World.apply]
    unfold World.declareGap
    split
    · exact .gap ..
    · exact .refl
  | useFrameSpool => exact useFrameSpool_idle
  | attachFrameSink => exact attachFrameSink_idle
  | pinFrame =>
    dsimp only [World.apply]
    unfold World.pinFrame
    split
    · split
      · exact (Idle.pins _).trans (.call ⟨rfl, rfl, rfl⟩)
      · exact (Idle.gap ..).trans .endCollection
    · exact .refl
  | insertFrame =>
    dsimp only [World.apply]
    unfold World.insertFrame
    split
    · split
      · rename_i j done
        exact (Idle.put (Journal.insertFrame_sameSamples done)).trans (.call ⟨rfl, rfl, rfl⟩)
      · exact .call ⟨rfl, rfl, rfl⟩
    · exact .refl
  | closeFramePin =>
    dsimp only [World.apply]
    unfold World.closeFramePin
    split
    · split
      · exact (Idle.pins _).trans .endCollection
      · exact .endCollection
    · exact .refl
  | insertSource =>
    dsimp only [World.apply]
    unfold World.insertSource
    split
    · split
      · rename_i j done
        exact (Idle.put (Journal.insertSource_sameSamples done)).trans (.call ⟨rfl, rfl, rfl⟩)
      · exact .endCollection
    · exact .refl
  | sinkFrame =>
    dsimp only [World.apply]
    unfold World.sinkFrame
    split
    · split
      · exact .endCollection
      · exact (Idle.gap ..).trans .endCollection
    · exact .refl
  | insertObservation =>
    dsimp only [World.apply]
    unfold World.insertObservation
    split
    · split
      · rename_i j done
        exact (Idle.put (Journal.insertObservation_sameSamples done)).trans .endCollection
      · exact .endCollection
    · exact .refl
  | stopBarrier => exact stopBarrier_idle
  | attachVideo =>
    dsimp only [World.apply]
    unfold World.attachVideo
    split
    · exact .call ⟨rfl, rfl, rfl⟩
    · exact .refl
  | pinVideo =>
    dsimp only [World.apply]
    unfold World.pinVideo
    split
    · split
      · split
        · exact (Idle.pins _).trans (.call ⟨rfl, rfl, rfl⟩)
        · exact .call ⟨rfl, rfl, rfl⟩
      · exact .refl
    · exact .refl
  | insertVideo =>
    dsimp only [World.apply]
    unfold World.insertVideo
    split
    · split
      · split
        · rename_i j done
          exact (Idle.put (Journal.attachVideo_sameSamples done)).trans .leave
        · exact .call ⟨rfl, rfl, rfl⟩
      · exact .refl
    · exact .refl
  | closeVideoPin =>
    dsimp only [World.apply]
    unfold World.closeVideoPin
    split
    · split
      · exact (Idle.pins _).trans (.call ⟨rfl, rfl, rfl⟩)
      · exact .call ⟨rfl, rfl, rfl⟩
    · exact .leave
    · exact .refl
  | freeze =>
    dsimp only [World.apply]
    unfold World.freeze
    split
    · exact startFreeze_idle
    · exact .refl
  | freezeRecovered =>
    dsimp only [World.apply]
    unfold World.freezeRecovered
    split
    · exact startFreeze_idle
    · exact .refl
  | publishOriginal =>
    dsimp only [World.apply]
    unfold World.publishOriginal
    split
    · split
      · exact .call ⟨rfl, rfl, rfl⟩
      · exact .leave
    · exact .refl
  | commitOriginal =>
    dsimp only [World.apply]
    unfold World.commitOriginal
    split
    · split
      · rename_i done
        exact (Idle.put (Journal.commitOriginal_sameSamples done)).trans (.call ⟨rfl, rfl, rfl⟩)
      · exact .leave
    · exact .refl
  | unpinRecording =>
    dsimp only [World.apply]
    unfold World.unpinRecording
    split
    · split
      · exact ((Idle.pins _).trans .leave).trans (.opened _)
      · exact Idle.leave.trans (.opened _)
    · exact .refl
  | appendLifecycle =>
    dsimp only [World.apply]
    unfold World.appendLifecycle
    split
    · exact .commit fun j done => Journal.appendLifecycle_sameSamples done
    · exact .refl
  | crash =>
    exact ⟨.refl, List.prefix_rfl, fun _ member => member, rfl, fun _ alive => (by cases alive),
      fun _ _ found => (by cases found)⟩
  | reopen => exact reopen_idle

theorem Sampled.apply {issuer : Nat} {registration : Registration} (sampled : w.Sampled host issuer registration)
    (event : Event) : (w.apply host event).Sampled host issuer registration := by
  by_cases samples : event.Samples
  · cases event with
    | prepare id => exact sampled.prepare id
    | recordFrame id frame sample =>
      dsimp only [World.apply]
      unfold World.recordFrame
      split
      · rename_i called
        split
        · split
          · exact sampled.beginCollection rfl rfl called.2.1
          · exact sampled
        · exact sampled.idle .noStamp
      · exact sampled
    | authorizeFrame id sample =>
      dsimp only [World.apply]
      unfold World.authorizeFrame
      split
      · rename_i frame at_id
        exact sampled.authorize (sampled.issued id _ at_id) (fun _ _ => rfl) (fun _ _ => rfl) fun _ _ => rfl
      · exact sampled
    | stampFrame id sample => exact sampled.stampFrame id sample
    | storeFrame id stored => exact sampled.storeFrame id stored
    | stageFrame id staged => exact sampled.stageFrame id staged
    | recordObservation id observation sample =>
      dsimp only [World.apply]
      unfold World.recordObservation
      split
      · rename_i called
        split
        · exact sampled.beginCollection rfl rfl called.2.1
        · split
          · split
            · exact sampled.beginCollection rfl rfl called.2.1
            · exact sampled
          · exact sampled.idle .noStamp
      · exact sampled
    | authorizeObservation id sample =>
      dsimp only [World.apply]
      unfold World.authorizeObservation
      split
      · rename_i observation at_id
        exact sampled.authorize (sampled.issued id _ at_id) (fun _ _ => rfl) (fun _ _ => rfl) fun _ _ => rfl
      · exact sampled
    | storeObservation id sample stored => exact sampled.storeObservation id sample stored
    | _ => exact samples.elim
  · exact sampled.idle (apply_idle samples)

theorem Sampled.run {issuer : Nat} {registration : Registration} (sampled : w.Sampled host issuer registration)
    (events : List Event) : (w.run host events).Sampled host issuer registration := by
  induction events generalizing w with
  | nil => exact sampled
  | cons event events ih => exact ih (sampled.apply event)

theorem gap_handed (reason : String) (offsetMs : Option Int) : (w.gap reason offsetMs).handed = w.handed :=
  (Idle.gap ..).handed

theorem beginCollection_handed {call : Call} : (w.beginCollection id call).handed = w.handed := by
  unfold World.beginCollection
  split
  · split
    · rfl
    · rfl
  · rfl

theorem authorize_handed {kind : Kind} {body : Bytes} {acquisitionSequence : Int}
    {classification : Option SampleClassification} {nativeIncarnation : Option String} {sample : Option Sample}
    {next : String → String → Call} :
    (w.authorize host id kind body acquisitionSequence classification nativeIncarnation sample next).handed =
      w.handed := by
  unfold World.authorize
  split
  · dsimp only
    split
    · split
      · split
        · split
          · rfl
          · exact gap_handed ..
        · rfl
      · rfl
    · rfl
  · rfl

/-- What a step hands over is a sample that a call had before. -/
theorem apply_handed {event : Event} {given : Handed} (member : given ∈ (w.apply host event).handed) :
    given ∈ w.handed ∨ ∃ id, w.Carries id given := by
  have last {w' : World} {id : Nat} {taken : Handed} (same : w'.handed = w.handed) (carries : w.Carries id taken)
      (member : given ∈ (w'.hand taken.kind taken.acquisitionSequence taken.body).handed) :
      given ∈ w.handed ∨ ∃ id, w.Carries id given := by
    obtain old | new := List.mem_append.mp member
    · exact .inl (same ▸ old)
    · exact .inr ⟨id, List.mem_singleton.mp new ▸ carries⟩
  have stays {w' : World} (same : w'.handed = w.handed) (member : given ∈ w'.handed) :
      given ∈ w.handed ∨ ∃ id, w.Carries id given := .inl (same ▸ member)
  by_cases samples : event.Samples
  · cases event with
    | prepare id =>
      dsimp only [World.apply] at member
      unfold World.prepare at member
      split at member
      · exact .inl member
      · exact .inl member
    | recordFrame id frame sample =>
      refine stays ?_ member
      dsimp only [World.apply]
      unfold World.recordFrame
      split
      · split
        · split
          · exact beginCollection_handed
          · rfl
        · exact gap_handed ..
      · rfl
    | authorizeFrame id sample =>
      refine stays ?_ member
      dsimp only [World.apply]
      unfold World.authorizeFrame
      split
      · exact authorize_handed
      · rfl
    | stampFrame id sample =>
      refine stays ?_ member
      dsimp only [World.apply]
      unfold World.stampFrame
      split
      · split
        · exact gap_handed ..
        · split
          · split
            · rfl
            · rfl
          · exact gap_handed ..
          · rfl
      · rfl
    | storeFrame id stored =>
      dsimp only [World.apply] at member
      unfold World.storeFrame at member
      split at member
      · rename_i frame digest timing s at_id at_session
        split at member
        · have gapped : (if frame.nativeSequenceGap.isSome then w.gap "native_frame_gap" (some timing.offsetMs)
              else w).handed = w.handed := by
            split
            · exact gap_handed ..
            · rfl
          have carries : w.Carries id ⟨.pixels, frame.acquisitionSequence, frame.body⟩ := ⟨_, at_id, rfl⟩
          dsimp only at member
          split at member
          · exact last gapped carries member
          · exact last gapped carries (gap_handed .. ▸ member)
        · exact .inl member
      · exact .inl member
    | stageFrame id staged =>
      dsimp only [World.apply] at member
      unfold World.stageFrame at member
      split at member
      · rename_i frame digest timing s at_id at_session
        have carries : w.Carries id ⟨.pixels, frame.acquisitionSequence, frame.body⟩ := ⟨_, at_id, rfl⟩
        split at member
        · split at member
          · dsimp only at member
            split at member
            · exact last rfl carries member
            · exact last rfl carries (gap_handed .. ▸ member)
          · exact .inl member
        · exact .inl member
      · exact .inl member
    | recordObservation id observation sample =>
      refine stays ?_ member
      dsimp only [World.apply]
      unfold World.recordObservation
      split
      · split
        · exact beginCollection_handed
        · split
          · split
            · exact beginCollection_handed
            · rfl
          · exact gap_handed ..
      · rfl
    | authorizeObservation id sample =>
      refine stays ?_ member
      dsimp only [World.apply]
      unfold World.authorizeObservation
      split
      · exact authorize_handed
      · rfl
    | storeObservation id sample stored =>
      dsimp only [World.apply] at member
      unfold World.storeObservation at member
      split at member
      · rename_i observation digest at_id
        have carries : w.Carries id ⟨observation.kind, observation.acquisitionSequence, observation.body⟩ :=
          ⟨_, at_id, rfl⟩
        split at member
        · dsimp only at member
          split at member
          · exact last rfl carries member
          · exact last rfl carries (gap_handed .. ▸ member)
        · exact .inl (gap_handed .. ▸ member)
      · exact .inl member
    | _ => exact samples.elim
  · exact .inl ((apply_idle samples).handed ▸ member)

theorem beginRecording_sampled {registrations : List Registration} {issuer : Nat} {anchor : Anchor}
    {begins : Beginning} {registration : Registration} (registered : registrations[issuer]? = some registration)
    (began : beginRecording host registrations issuer anchor begins = .ok w) : w.Sampled host issuer registration := by
  obtain ⟨_, -, -, -, rfl⟩ := beginRecording_ok began
  have first {id : Nat} {call : Call}
      (found : (Dict.set .empty 0 (Call.preparing issuer begins.preparation)).get? id = some call) :
      call = .preparing issuer begins.preparation := by
    obtain ⟨-, rfl⟩ | ⟨-, old⟩ := Dict.get?_set_some found
    · rfl
    · cases old
  have empty {id : Nat} {given : Handed} : ¬ ∃ call,
      (Dict.set .empty 0 (Call.preparing issuer begins.preparation)).get? id = some call ∧
        call.carries = some given := by
    rintro ⟨call, found, carries⟩
    rw [first found] at carries
    cases carries
  refine ⟨registered, fun _ alive => (nomatch alive), fun id call own found begins => ?_,
    fun id call found token given => ?_, List.forall_mem_nil _, List.forall_mem_nil _, fun _ => .nil,
    fun given had => ?_, List.nodup_nil, fun id given carries => absurd carries empty⟩
  · rw [first found] at begins
    exact (Option.some.inj begins).symm
  · rw [first found] at given
    cases given
  · obtain none_ | ⟨id, carries⟩ := had
    · cases none_
    · exact absurd carries empty

/-- Whatever a step hands to the evidence store or to the spool has been approved before by a row of the samples,
each sample once; the project collects its kind, and it is not suppressed. In the sample-bound mode an approved row
is that of a token that the registration has issued. The samples of a kind have increasing sequences. -/
theorem run_approved {registrations : List Registration} {issuer : Nat} {anchor : Anchor} {begins : Beginning}
    {registration : Registration} (registered : registrations[issuer]? = some registration)
    (began : beginRecording host registrations issuer anchor begins = .ok w) (events : List Event) :
    let w' := w.run host events
    (∀ event, ∀ given ∈ (w'.apply host event).handed,
      registration.captureMode ≠ .suppressed ∧ registration.project.evidence given.kind = true ∧
        ∃ row ∈ w'.journal.samples, row.Approves host.python given) ∧
    (w'.handed.map Handed.key).Nodup ∧
    (∀ row ∈ w'.journal.samples, row.approved = true → registration.Allows issuer w'.tokens row) ∧
    w'.journal.Increasing := by
  intro w'
  have sampled : w'.Sampled host issuer registration := (beginRecording_sampled registered began).run events
  refine ⟨fun event given member => ?_, sampled.once, sampled.allowed, sampled.increasing⟩
  obtain ⟨row, found, approves⟩ := sampled.approved given (apply_handed member)
  have allows := sampled.allowed row found approves.approved
  exact ⟨allows.mode, approves.kind ▸ allows.evidence, row, found, approves⟩

/-- A frame with its token, and the token again for the next one. -/
def oneToken : List Event :=
  let token : SampleClassification :=
    ⟨.pixels, "sample", String.ofList (List.replicate 64 'a'), "provider", "native", 1, .approved, 0⟩
  let frame (acquisitionSequence : Int) : Frame :=
    ⟨[1], "image/png", 1, 1, "portrait", acquisitionSequence, some token, none, none, none, none, none, "host-acquired"⟩
  [.prepare 0, .classify token, .recordFrame 1 (frame 1) second, .authorizeFrame 1 second, .stampFrame 1 second,
    .storeFrame 1 true, .recordFrame 2 (frame 2) second, .authorizeFrame 2 second, .stampFrame 2 second]

theorem run_approved_oneToken :
    ∃ w, beginRecording plain [shop .sampleBound] 0 midnight shopping = .ok w ∧
      ((w.run plain oneToken).handed = [⟨.pixels, 1, [1]⟩] ∧
        (w.run plain oneToken).journal.samples.map (·.approved) = [true, false]) ∧
      ∀ event, ∀ given ∈ ((w.run plain oneToken).apply plain event).handed,
        ∃ row ∈ (w.run plain oneToken).journal.samples, row.Approves plain.python given := by
  obtain ⟨w, began, collected⟩ := shopping_begins .sampleBound
    (P := fun w => (w.run plain oneToken).handed = [⟨.pixels, 1, [1]⟩] ∧
      (w.run plain oneToken).journal.samples.map (·.approved) = [true, false]) (by decide +kernel)
  refine ⟨w, began, collected, fun event given member => ?_⟩
  exact ((run_approved rfl began oneToken).1 event given member).2.2

end World

end Reproof.Live.RecordingSession

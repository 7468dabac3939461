import Mathlib.Data.List.DropRight
import Reproof.Live.Authority.NativeCleanup

/-! The calls on one handle: a device whose helper was bound is given up only after a cleanup that
is newer than the helper, as long as every cleanup permit that the handle is shown is. -/

namespace Reproof.Live.Authority

open Library StateStore

/-- A call on the handle, with the sessions before and after it. -/
structure Entry where
  before : Session
  request : Request
  outcome : Outcome Failure request.Reply
  after : Session

def Request.bound? : (request : Request) → Outcome Failure request.Reply → Option DispatchPermit
  | .bindNativeHandshake permit .., .done _ => some permit
  | _, _ => none

def Request.dispatched? : (request : Request) → Outcome Failure request.Reply → Option DispatchPermit
  | .prepareDispatch .., .done permit => some permit
  | _, _ => none

def Request.released : (request : Request) → Outcome Failure request.Reply → Bool
  | .close, .done released => released
  | _, _ => false

/-- The permit of a handshake. -/
def Request.handshake? : Request → Option DispatchPermit
  | .bindNativeHandshake permit .. => some permit
  | _ => none

/-- The permit that a cleanup is confirmed with. -/
def Request.cleanup? : Request → Option DispatchPermit
  | .confirmNativeCleanup permit => some permit
  | _ => none

theorem Request.bound?_of_cleanup {request : Request} {permit : DispatchPermit}
    {outcome : Outcome Failure request.Reply} (shown : request.cleanup? = some permit) :
    request.bound? outcome = none := by
  cases request with
  | bindNativeHandshake => cases shown
  | _ => rfl

namespace Entry

/-- A handshake that succeeded in the generation. -/
def Binds (e : Entry) (generation : Int) : Prop :=
  (e.request.bound? e.outcome).isSome ∧ e.before.self.generation = generation

def Dispatches (e : Entry) (permit : DispatchPermit) : Prop :=
  e.request.dispatched? e.outcome = some permit

def Releases (e : Entry) : Prop := e.request.released e.outcome = true

instance (e : Entry) (generation : Int) : Decidable (e.Binds generation) :=
  inferInstanceAs (Decidable (_ ∧ _))

instance (e : Entry) (permit : DispatchPermit) : Decidable (e.Dispatches permit) :=
  inferInstanceAs (Decidable (_ = _))

instance (e : Entry) : Decidable e.Releases := inferInstanceAs (Decidable (_ = _))

end Entry

/-- The calls on the handle of the session, one after the other, until its process dies. -/
def history (canonicalDigest : Json → String) (s : Session) :
    List (Request × List Answer) → List Entry
  | [] => []
  | (request, answers) :: rest =>
    let result := (request.method canonicalDigest).run answers s
    ⟨s, request, result.1, result.2.2⟩ ::
      match result.1 with
      | .crashed => []
      | _ => history canonicalDigest result.2.2 rest

/-- A handle takes a handshake only with a permit that it issued. -/
def Genuine (log : List Entry) : Prop :=
  ∀ i (inside : i < log.length), ∀ permit ∈ (log[i].request).handshake?,
    ∃ d ∈ log.take i, d.Dispatches permit

/-- The calls since the last handshake of the generation that succeeded. -/
def sinceHandshake (generation : Int) (log : List Entry) : List Entry :=
  log.rtakeWhile fun e => ¬ e.Binds generation

/-- Every permit that a cleanup is confirmed with was issued since the last handshake of the
generation. -/
def Fresh (log : List Entry) : Prop :=
  ∀ i (inside : i < log.length), ∀ permit ∈ (log[i].request).cleanup?,
    ∃ d ∈ sinceHandshake log[i].before.self.generation (log.take i), d.Dispatches permit

instance (log : List Entry) : Decidable (Genuine log) :=
  inferInstanceAs (Decidable (∀ _ _, _))

instance (log : List Entry) : Decidable (Fresh log) :=
  inferInstanceAs (Decidable (∀ _ _, _))

section Log

variable {log before after : List Entry} {e : Entry} {permit : DispatchPermit} {generation : Int}

theorem Genuine.issued (genuine : Genuine log) (split : log = before ++ e :: after)
    (shown : e.request.handshake? = some permit) : ∃ d ∈ before, d.Dispatches permit := by
  subst split
  have found := genuine before.length (by simp) permit
  rw [List.getElem_append_right (Nat.le_refl _), List.take_left] at found
  simpa [shown] using found

theorem Fresh.issued (fresh : Fresh log) (split : log = before ++ e :: after)
    (shown : e.request.cleanup? = some permit) :
    ∃ d ∈ sinceHandshake e.before.self.generation before, d.Dispatches permit := by
  subst split
  have found := fresh before.length (by simp) permit
  rw [List.getElem_append_right (Nat.le_refl _), List.take_left] at found
  simpa [shown] using found

theorem sinceHandshake_append (quiet : ∀ e ∈ after, ¬ e.Binds generation) :
    sinceHandshake generation (before ++ after) = sinceHandshake generation before ++ after := by
  unfold sinceHandshake List.rtakeWhile
  rw [List.reverse_append, List.takeWhile_append_of_pos (by simpa using quiet), List.reverse_append,
    List.reverse_reverse]

end Log

/-- The session of a new handle. -/
structure Session.Claimed (s : Session) : Prop where
  claimed : ∃ authority sha256 deviceKind physicalId helperIncarnation parentGrant displayAlias issuer
    answers rest site, empty.Later site.store ∧
      (HostAuthority.claimDevice authority sha256 deviceKind physicalId helperIncarnation parentGrant
        displayAlias issuer).run answers site = (.done s.self, rest, s.site)

/-- What the journal has of the calls so far. -/
structure Recorded (log : List Entry) (s : Session) : Prop where
  owns : (s.site.store.shard s.self.deviceFingerprint).Owns
  bounded : ∀ e ∈ log, e.before.self.generation ≤ s.self.generation
  issued : ∀ e ∈ log, ∀ permit, e.Dispatches permit → ∃ o ∈ s.site.store.operations,
    o.operationId = permit.operationId ∧ o.deviceFingerprint = s.self.deviceFingerprint ∧
      o.payloadDigest = permit.payloadDigest

/-- A cleanup that was confirmed after the last handshake of the generation. -/
def CleanedUp (canonicalDigest : Json → String) (log : List Entry) (s : Session) : Prop :=
  ∃ (before : List Entry) (e : Entry) (after : List Entry) (permit : DispatchPermit), log = before ++ e :: after ∧
    e.request.cleanup? = some permit ∧ e.before.self.generation = s.self.generation ∧
    (∀ later ∈ after, ¬ later.Binds s.self.generation) ∧
    permit.payloadDigest = canonicalDigest DeviceAuthority.cleanupPayload ∧
    ∃ o ∈ s.site.store.operations, o.operationId = permit.operationId ∧ o.status = .succeeded

/-- What the marks of the handle say of the calls so far. -/
structure Marked (canonicalDigest : Json → String) (log : List Entry) (s : Session) : Prop where
  attached : ∀ e ∈ log, e.Binds s.self.generation → s.self.nativeHelperAttached = true
  confirmed : s.self.nativeCleanupConfirmed = true → CleanedUp canonicalDigest log s
  released : s.self.released = true → s.self.closed = true ∧
    (s.self.nativeHelperAttached = true → s.self.nativeCleanupConfirmed = true)
  clean : s.self.closed = false → s.Clean → s.self.nativeHelperAttached = true →
    s.self.nativeCleanupConfirmed = true

section Step

variable {canonicalDigest : Json → String} {log : List Entry} {s t : Session} {e : Entry}

theorem Recorded.next (recorded : Recorded log s) (evolves : s.Evolves t) (from_ : e.before = s)
    (issued : ∀ permit, e.Dispatches permit → ∃ o ∈ t.site.store.operations,
      o.operationId = permit.operationId ∧ o.deviceFingerprint = t.self.deviceFingerprint ∧
        o.payloadDigest = permit.payloadDigest) : Recorded (log ++ [e]) t where
  owns := by
    rw [evolves.self.fingerprint]
    exact evolves.later.owns recorded.owns
  bounded d mem := by
    rcases List.mem_append.mp mem with old | new
    · exact Int.le_trans (recorded.bounded d old) evolves.self.generation
    · cases List.mem_singleton.mp new
      exact from_ ▸ evolves.self.generation
  issued d mem permit dispatches := by
    rcases List.mem_append.mp mem with old | new
    · obtain ⟨o, stored, named, device, payload⟩ := recorded.issued d old permit dispatches
      obtain ⟨o', stored', values⟩ := evolves.later.operation stored
      exact ⟨o', stored', (congrArg OperationValues.operationId values).trans named,
        ((congrArg OperationValues.deviceFingerprint values).trans device).trans
          evolves.self.fingerprint.symm,
        (congrArg OperationValues.payloadDigest values).trans payload⟩
    · cases List.mem_singleton.mp new
      exact issued permit dispatches

/-- A confirmed cleanup stays one until the next handshake of the generation. -/
theorem CleanedUp.next (cleaned : CleanedUp canonicalDigest log s)
    (later : s.site.store.Later t.site.store) (generation : t.self.generation = s.self.generation)
    (quiet : ¬ e.Binds s.self.generation) : CleanedUp canonicalDigest (log ++ [e]) t := by
  obtain ⟨before, c, after, permit, rfl, shown, own, last, payload, o, mem, named, succeeded⟩ := cleaned
  refine ⟨before, c, after ++ [e], permit, by simp, shown, own.trans generation.symm, fun d mem => ?_,
    payload, o, later.finished mem (by simp [succeeded]), named, succeeded⟩
  rw [generation]
  rcases List.mem_append.mp mem with old | new
  · exact last d old
  · exact List.mem_singleton.mp new ▸ quiet

theorem Marked.attached_next (marked : Marked canonicalDigest log s)
    (generation : t.self.generation = s.self.generation) (quiet : ¬ e.Binds s.self.generation)
    (attached : t.self.nativeHelperAttached = s.self.nativeHelperAttached) :
    ∀ d ∈ log ++ [e], d.Binds t.self.generation → t.self.nativeHelperAttached = true := by
  intro d mem binds
  rw [generation] at binds
  rcases List.mem_append.mp mem with old | new
  · exact attached.trans (marked.attached d old binds)
  · exact absurd (List.mem_singleton.mp new ▸ binds) quiet

/-- A call that leaves the marks as they were. -/
theorem Marked.working (marked : Marked canonicalDigest log s) (working : s.Working t)
    (quiet : ¬ e.Binds s.self.generation) : Marked canonicalDigest (log ++ [e]) t := by
  have marks := working.marks
  have generation := working.keeps.generation
  constructor
  · exact marked.attached_next generation quiet marks.attached
  · intro confirmed
    exact (marked.confirmed (marks.confirmed.symm.trans confirmed)).next working.keeps.site.later
      generation quiet
  · intro released
    rw [working.keeps.closed, marks.attached, marks.confirmed]
    exact marked.released (marks.released.symm.trans released)
  · intro unclosed clean
    rw [marks.attached, marks.confirmed]
    exact marked.clean (working.keeps.closed.symm.trans unclosed) (working.held clean)

/-- A handshake under a permit of the handle, whose operation is then in flight. -/
theorem Marked.binds {permit : DispatchPermit} (marked : Marked canonicalDigest log s)
    (recorded : Recorded log s) (genuine : ∃ d ∈ log, d.Dispatches permit)
    (binds : s.Binds permit t) : Marked canonicalDigest (log ++ [e]) t := by
  have unreleased : t.self.released = false := by
    rw [binds.released]
    cases released : s.self.released with
    | false => rfl
    | true => cases (marked.released released).1.symm.trans binds.unclosed
  constructor
  · exact fun _ _ _ => binds.attached
  · exact fun confirmed => absurd confirmed (by simp [binds.unconfirmed])
  · exact fun released => absurd released (by simp [unreleased])
  · intro _ clean
    obtain ⟨d, mem, dispatches⟩ := genuine
    obtain ⟨o, stored, named, device, -⟩ := recorded.issued d mem permit dispatches
    obtain ⟨o', stored', values⟩ := binds.keeps.site.later.operation stored
    obtain ⟨p, inFlight, same, uncertain⟩ := binds.uncertain
    obtain rfl : o' = p := Table.eq_of_clash stored' inFlight
      (.inl (((congrArg OperationValues.operationId values).trans named).trans same.symm))
    have own := ((congrArg OperationValues.deviceFingerprint values).trans device).trans
      binds.keeps.fingerprint.symm
    have owns : (t.site.store.shard t.self.deviceFingerprint).Owns := by
      rw [binds.keeps.fingerprint]
      exact binds.keeps.site.later.owns recorded.owns
    exact absurd clean (not_clean_of_uncertain owns stored' own uncertain)

theorem Marked.confirms {permit : DispatchPermit} (marked : Marked canonicalDigest log s)
    (from_ : e.before = s) (shown : e.request.cleanup? = some permit)
    (quiet : ¬ e.Binds s.self.generation) (confirms : s.Confirms canonicalDigest permit t) :
    Marked canonicalDigest (log ++ [e]) t := by
  have generation := confirms.keeps.generation
  constructor
  · exact marked.attached_next generation quiet confirms.attached
  · exact fun _ => ⟨log, e, [], permit, rfl, shown, from_ ▸ generation.symm, by simp,
      confirms.payload, confirms.succeeded⟩
  · intro released
    cases (marked.released (confirms.released.symm.trans released)).1.symm.trans confirms.unclosed
  · exact fun _ _ _ => confirms.confirmed

/-- A reconciliation begins a generation without a helper. -/
theorem Marked.resets (marked : Marked canonicalDigest log s) (recorded : Recorded log s)
    (from_ : e.before = s) (quiet : ¬ e.Binds s.self.generation) (resets : s.Resets t) :
    Marked canonicalDigest (log ++ [e]) t := by
  rcases resets with working | ⟨unclosed, live, generation, attached, confirmed, released⟩
  · exact marked.working working quiet
  constructor
  · intro d mem binds
    have bounded : d.before.self.generation ≤ s.self.generation := by
      rcases List.mem_append.mp mem with old | new
      · exact recorded.bounded d old
      · cases List.mem_singleton.mp new
        exact from_ ▸ Int.le_refl _
    have := binds.2
    omega
  · exact fun held => absurd held (by simp [confirmed])
  · intro held
    cases (marked.released (released.symm.trans held)).1.symm.trans unclosed
  · exact fun _ _ held => absurd held (by simp [attached])

theorem Session.Shuts.marked (marked : Marked canonicalDigest log s) (shuts : s.Shuts t)
    (quiet : ¬ e.Binds s.self.generation)
    (released : t.self.released = true → t.self.closed = true ∧
      (t.self.nativeHelperAttached = true → t.self.nativeCleanupConfirmed = true))
    (clean : t.self.closed = false → t.Clean → t.self.nativeHelperAttached = true →
      t.self.nativeCleanupConfirmed = true) : Marked canonicalDigest (log ++ [e]) t where
  attached := marked.attached_next shuts.generation quiet shuts.attached
  confirmed confirmed := (marked.confirmed (shuts.confirmed.symm.trans confirmed)).next shuts.later
    shuts.generation quiet
  released := released
  clean := clean

/-- A handle that gives its device up while it is open has no helper, or a confirmed cleanup. -/
theorem Session.Shuts.confirmed_of (marked : Marked canonicalDigest log s) (unclosed : s.self.closed = false)
    (shuts : s.Shuts t) (clean : t.Clean) (attached : s.self.nativeHelperAttached = true) :
    s.self.nativeCleanupConfirmed = true := by
  cases confirmed : s.self.nativeCleanupConfirmed with
  | true => rfl
  | false =>
    have before := marked.clean unclosed (shuts.held attached confirmed clean) attached
    cases before.symm.trans confirmed

end Step

section Run

variable {canonicalDigest : Json → String} {log : List Entry} {s : Session} {e : Entry}

/-- The entry of a call on the session. -/
def entry (canonicalDigest : Json → String) (s : Session) (request : Request)
    (answers : List Answer) : Entry :=
  let result := (request.method canonicalDigest).run answers s
  ⟨s, request, result.1, result.2.2⟩

theorem entry_issued {request : Request} {answers : List Answer} {permit : DispatchPermit}
    (dispatches : (entry canonicalDigest s request answers).Dispatches permit) :
    ∃ o ∈ (entry canonicalDigest s request answers).after.site.store.operations,
      o.operationId = permit.operationId ∧
      o.deviceFingerprint = (entry canonicalDigest s request answers).after.self.deviceFingerprint ∧
      o.payloadDigest = permit.payloadDigest := by
  have evolves := (request.evolves canonicalDigest).run answers s
  revert dispatches
  cases request with
  | prepareDispatch admission provider =>
    unfold Entry.Dispatches entry
    change Session.Evolves s ((DeviceAuthority.prepareDispatch admission provider).run answers s).2.2
      at evolves
    dsimp only [Request.method]
    generalize served : (DeviceAuthority.prepareDispatch admission provider).run answers s = r
      at evolves
    obtain ⟨outcome, rest, t⟩ := r
    cases outcome with
    | done issued =>
      rintro ⟨⟩
      obtain ⟨-, o, mem, device, -, named, payload, -⟩ :=
        Prog.done_wp DeviceAuthority.returns_prepareDispatch_row served
      exact ⟨o, mem, named.symm, device.trans evolves.self.fingerprint.symm, payload.symm⟩
    | raised => exact nofun
    | crashed => exact nofun
  | _ => exact nofun

variable {answers : List Answer} {permit : DispatchPermit} {request : Request}

theorem quiet_of_request (other : request.handshake? = none) {generation : Int} :
    ¬ (entry canonicalDigest s request answers).Binds generation := by
  rintro ⟨bound, -⟩
  revert bound
  cases request with
  | bindNativeHandshake => cases other
  | _ => exact nofun

theorem entry_handshake (shown : request.handshake? = some permit) :
    s.Binds permit (entry canonicalDigest s request answers).after ∨
      s.Working (entry canonicalDigest s request answers).after ∧
        ∀ generation, ¬ (entry canonicalDigest s request answers).Binds generation := by
  cases request with
  | bindNativeHandshake permit' protocol helper helperIncarnation provider native clockId timeMs =>
    obtain rfl := Option.some.inj shown
    unfold entry Entry.Binds
    dsimp only [Request.method]
    generalize served : (DeviceAuthority.bindNativeHandshake permit' protocol helper
      helperIncarnation provider native clockId timeMs).run answers s = r
    have after := Prog.run_wp (@DeviceAuthority.wp_bindNativeHandshake s permit' protocol helper
      helperIncarnation provider native clockId timeMs) answers
    rw [served] at after
    obtain ⟨outcome, rest, t⟩ := r
    cases outcome with
    | done => exact .inl after
    | raised => exact .inr ⟨after, fun _ => by simp [Request.bound?]⟩
    | crashed => exact .inr ⟨after, fun _ => by simp [Request.bound?]⟩
  | _ => cases shown

theorem entry_cleanup (shown : request.cleanup? = some permit) :
    s.Confirms canonicalDigest permit (entry canonicalDigest s request answers).after ∨
      s.Working (entry canonicalDigest s request answers).after := by
  cases request with
  | confirmNativeCleanup permit' =>
    obtain rfl := Option.some.inj shown
    unfold entry
    dsimp only [Request.method]
    have after := Prog.run_wp (@DeviceAuthority.wp_confirmNativeCleanup s canonicalDigest permit')
      answers
    revert after
    rcases (DeviceAuthority.confirmNativeCleanup canonicalDigest permit').run answers s with
      ⟨outcome, rest, t⟩
    cases outcome with
    | done => exact .inl
    | raised => exact .inr
    | crashed => exact .inr
  | _ => cases shown

/-- A close that gives the device up, or leaves its handle unreleased. -/
theorem entry_close (unclosed : s.self.closed = false) :
    s.Shuts (entry canonicalDigest s .close answers).after ∧
      ((entry canonicalDigest s .close answers).after.self.closed = true ∧
          ((entry canonicalDigest s .close answers).after.self.released = true →
            (entry canonicalDigest s .close answers).after.Clean) ∨
        (entry canonicalDigest s .close answers).after.self.closed = s.self.closed ∧
          (entry canonicalDigest s .close answers).after.self.released = s.self.released) := by
  unfold entry
  dsimp only [Request.method]
  have after := Prog.run_wp (DeviceAuthority.wp_close_shuts unclosed) answers
  revert after
  rcases DeviceAuthority.close.run answers s with ⟨outcome, rest, t⟩
  cases outcome with
  | done released => exact fun ⟨shuts, closed, same, clean⟩ => ⟨shuts, .inl ⟨closed, same ▸ clean⟩⟩
  | raised => exact fun ⟨shuts, same⟩ => ⟨shuts, .inr same⟩
  | crashed => exact fun ⟨shuts, same⟩ => ⟨shuts, .inr same⟩

/-- A close of a closed handle returns what the first one did. -/
theorem run_close_closed (closed : s.self.closed = true) :
    DeviceAuthority.close.run answers s = (.done s.self.released, answers, s) := by
  simp [DeviceAuthority.close, DeviceAuthority.self, closed]

theorem Marked.close (marked : Marked canonicalDigest log s) :
    Marked canonicalDigest (log ++ [entry canonicalDigest s .close answers])
      (entry canonicalDigest s .close answers).after := by
  have quiet : ¬ (entry canonicalDigest s .close answers).Binds s.self.generation :=
    quiet_of_request rfl
  cases closed : s.self.closed with
  | true =>
    have same : (entry canonicalDigest s .close answers).after = s := by
      unfold entry
      dsimp only [Request.method]
      rw [run_close_closed closed]
    rw [same]
    exact marked.working (.refl s) quiet
  | false =>
    obtain ⟨shuts, ends⟩ := @entry_close canonicalDigest s answers closed
    refine shuts.marked marked quiet ?_ ?_
    · intro released
      rcases ends with ⟨shut, clean⟩ | ⟨-, same⟩
      · refine ⟨shut, fun attached => ?_⟩
        rw [shuts.confirmed]
        exact shuts.confirmed_of marked closed (clean released) (shuts.attached.symm.trans attached)
      · cases (marked.released (same.symm.trans released)).1.symm.trans closed
    · intro unclosed clean attached
      rw [shuts.confirmed]
      exact shuts.confirmed_of marked closed clean (shuts.attached.symm.trans attached)

theorem entry_releases (releases : (entry canonicalDigest s request answers).Releases) :
    s.self.closed = true ∧ s.self.released = true ∨
      s.self.closed = false ∧ ∃ t, s.Shuts t ∧ t.Clean := by
  revert releases
  cases request with
  | close =>
    unfold Entry.Releases entry
    dsimp only [Request.method]
    cases closed : s.self.closed with
    | true =>
      rw [run_close_closed closed]
      exact fun released => .inl ⟨rfl, released⟩
    | false =>
      have after := Prog.run_wp (DeviceAuthority.wp_close_shuts closed) answers
      revert after
      rcases DeviceAuthority.close.run answers s with ⟨outcome, rest, t⟩
      cases outcome with
      | done released =>
        exact fun ⟨shuts, _, _, clean⟩ held => .inr ⟨rfl, t, shuts, clean held⟩
      | raised => exact nofun
      | crashed => exact nofun
  | _ => exact nofun

theorem entry_marked (marked : Marked canonicalDigest log s) (recorded : Recorded log s)
    (genuine : ∀ permit, request.handshake? = some permit → ∃ d ∈ log, d.Dispatches permit) :
    Marked canonicalDigest (log ++ [entry canonicalDigest s request answers])
      (entry canonicalDigest s request answers).after := by
  by_cases plain : ¬ request.Ends ∧ ¬ request.Marks
  · have working : s.Working (entry canonicalDigest s request answers).after :=
      (Request.works plain.1 plain.2).run answers s rfl
    refine marked.working working (quiet_of_request ?_)
    cases request with
    | bindNativeHandshake => exact absurd trivial plain.2
    | _ => rfl
  · cases request with
    | bindNativeHandshake permit protocol helper helperIncarnation provider native clockId timeMs =>
      have handshake := @entry_handshake canonicalDigest s answers permit (.bindNativeHandshake permit
        protocol helper helperIncarnation provider native clockId timeMs) rfl
      rcases handshake with binds | ⟨working, quiet⟩
      · exact marked.binds recorded (genuine permit rfl) binds
      · exact marked.working working (quiet _)
    | confirmNativeCleanup permit =>
      have cleanup := @entry_cleanup canonicalDigest s answers permit (.confirmNativeCleanup permit) rfl
      rcases cleanup with confirms | working
      · exact marked.confirms rfl rfl (quiet_of_request rfl) confirms
      · exact marked.working working (quiet_of_request rfl)
    | reconcile reconciliation parentGrant cleanupPending =>
      exact marked.resets recorded rfl (quiet_of_request rfl)
        (Prog.run_after DeviceAuthority.wp_reconcile_resets answers)
    | close => exact marked.close
    | _ => exact absurd ⟨id, id⟩ plain

theorem history_cons {rest : List (Request × List Answer)} :
    ∃ more, history canonicalDigest s ((request, answers) :: rest) =
        entry canonicalDigest s request answers :: more ∧
      (more = [] ∨
        more = history canonicalDigest (entry canonicalDigest s request answers).after rest) := by
  refine ⟨_, rfl, ?_⟩
  split
  · exact .inl rfl
  · exact .inr rfl

/-- The marks before each call of a history say what the calls before it have done. -/
theorem history_marked {calls : List (Request × List Answer)} (marked : Marked canonicalDigest log s)
    (recorded : Recorded log s) {before after : List Entry}
    (genuine : Genuine (log ++ history canonicalDigest s calls))
    (listed : history canonicalDigest s calls = before ++ e :: after) :
    Marked canonicalDigest (log ++ before) e.before ∧ Recorded (log ++ before) e.before ∧
      ∃ request answers, e = entry canonicalDigest e.before request answers := by
  induction calls generalizing s log before with
  | nil => cases before <;> cases listed
  | cons call rest ih =>
    obtain ⟨request, answers⟩ := call
    obtain ⟨more, first, later⟩ := @history_cons canonicalDigest s answers request rest
    rw [first] at listed genuine
    cases before with
    | nil =>
      obtain ⟨rfl, -⟩ := List.cons.inj listed
      rw [List.append_nil]
      exact ⟨marked, recorded, request, answers, rfl⟩
    | cons head before =>
      obtain ⟨rfl, tail⟩ := List.cons.inj listed
      rcases later with rfl | rfl
      · cases before <;> cases tail
      · have step : Marked canonicalDigest (log ++ [entry canonicalDigest s request answers])
            (entry canonicalDigest s request answers).after :=
          entry_marked marked recorded fun permit shown => genuine.issued rfl shown
        have recorded' : Recorded (log ++ [entry canonicalDigest s request answers])
            (entry canonicalDigest s request answers).after :=
          recorded.next ((request.evolves canonicalDigest).run answers s) rfl fun _ => entry_issued
        have := ih step recorded' (by rwa [List.append_assoc]) tail
        rwa [List.append_assoc] at this

theorem Session.Claimed.start (claimed : s.Claimed) :
    Marked canonicalDigest [] s ∧ Recorded [] s := by
  obtain ⟨authority, sha256, deviceKind, physicalId, helperIncarnation, parentGrant, displayAlias,
    issuer, answers, rest, site, later, claimed⟩ := claimed
  obtain ⟨others, grant, now, device, claim⟩ := claim_of_run claimed
  have same := claim.handle
  have stored : site.store.Later s.site.store :=
    Site.after_later.trans (Later.exec (c := .claimDevice ..) claim.claimed)
  have attached : s.self.nativeHelperAttached = false := by rw [same]
  have confirmed : s.self.nativeCleanupConfirmed = false := by rw [same]
  have released : s.self.released = false := by rw [same]
  refine ⟨⟨by simp, ?_, ?_, ?_⟩, (later.trans stored).owns (by rfl), by simp, by simp⟩
  · exact fun held => absurd held (by simp [confirmed])
  · exact fun held => absurd held (by simp [released])
  · exact fun _ _ held => absurd held (by simp [attached])

/-- A handle that gave its device up, having bound a helper in its generation, has a cleanup that
succeeded and was dispatched after the last handshake. -/
theorem released_after_cleanup (canonicalDigest : Json → String) {s : Session} (claimed : s.Claimed)
    (calls : List (Request × List Answer)) (genuine : Genuine (history canonicalDigest s calls))
    (fresh : Fresh (history canonicalDigest s calls)) {before after : List Entry} {e : Entry}
    (listed : history canonicalDigest s calls = before ++ e :: after) (releases : e.Releases)
    (bound : ∃ b ∈ before, b.Binds e.before.self.generation) :
    ∃ d ∈ sinceHandshake e.before.self.generation before, ∃ permit, d.Dispatches permit ∧ ∃ o,
      e.before.site.store.operation permit.operationId = some o ∧
      o.payloadDigest = canonicalDigest DeviceAuthority.cleanupPayload ∧ o.status = .succeeded := by
  obtain ⟨start, empty⟩ := @Session.Claimed.start canonicalDigest s claimed
  obtain ⟨marked, recorded, request, answers, called⟩ := history_marked start empty genuine listed
  rw [List.nil_append] at marked recorded
  obtain ⟨b, mem, binds⟩ := bound
  have attached := marked.attached b mem binds
  have confirmed : e.before.self.nativeCleanupConfirmed = true := by
    rw [called] at releases
    rcases entry_releases releases with ⟨-, released⟩ | ⟨unclosed, t, shuts, clean⟩
    · exact (marked.released released).2 attached
    · exact shuts.confirmed_of marked unclosed clean attached
  obtain ⟨early, c, later, permit, rfl, shown, own, quiet, payload, o, stored, named, succeeded⟩ :=
    marked.confirmed confirmed
  have still : ∀ d ∈ c :: later, ¬ d.Binds e.before.self.generation := by
    refine List.forall_mem_cons.mpr ⟨fun binds => ?_, quiet⟩
    have handshake := binds.1
    rw [Request.bound?_of_cleanup shown] at handshake
    cases handshake
  obtain ⟨d, newly, dispatches⟩ := fresh.issued (listed.trans (by simp) :
    _ = early ++ c :: (later ++ e :: after)) shown
  rw [own] at newly
  have since : d ∈ sinceHandshake e.before.self.generation (early ++ c :: later) := by
    rw [sinceHandshake_append still]
    exact List.mem_append_left _ newly
  obtain ⟨o', stored', named', -, digest⟩ := recorded.issued d
    ((List.rtakeWhile_suffix _ _).mem since) permit dispatches
  obtain rfl : o' = o := Table.eq_of_clash stored' stored (.inl (named'.trans named.symm))
  exact ⟨d, since, permit, dispatches, o', operation_eq_some.mpr ⟨stored, named⟩,
    digest.trans payload, succeeded⟩

end Run

/-! A helper is bound, cleaned up, and bound once more; the old cleanup is shown at the end. -/

section Example

def hostGrant : ParentGrant :=
  ⟨⟨"grant_a", "project", "controller", 1, 10000000000, "mapping"⟩, 1⟩

def claiming : Outcome Failure DeviceAuthority × List Answer × Site :=
  (HostAuthority.claimDevice ⟨"host_a", "root", 1, false⟩ id "android" "device" "helper_a"
    (some hostGrant) none 0).run [] (World.start.site "root")

def claimedSession : Session :=
  ⟨claiming.2.2, { World.dispatchedHandle with parentGrant := some hostGrant }⟩

theorem claimedSession_claimed : claimedSession.Claimed :=
  ⟨⟨"host_a", "root", 1, false⟩, id, "android", "device", "helper_a", some hostGrant, none, 0, [],
    claiming.2.1, World.start.site "root", Later.refl _,
    (Prod.ext (by decide +kernel) rfl :
      claiming = (.done claimedSession.self, claiming.2.1, claimedSession.site))⟩

/-- An operation is told from the others by the length of its name. -/
def fingerprint (operationId : String) : String :=
  String.ofList (List.replicate 64 (Nat.digitChar operationId.length))

def cleanupDigest : String := String.ofList (List.replicate 64 'c')

def fieldsDigest : Json → String
  | .obj fields => match fields.lookup "operationId" with
    | some (.str operationId) => fingerprint operationId
    | _ => cleanupDigest
  | _ => cleanupDigest

def numbered (operationId payload : String) (sequence : Int) : OperationAdmission :=
  { World.admission with
    operationId, payloadDigest := payload, sequence, operationFingerprint := fingerprint operationId
    deadlineNs := 10000000000 }

def permitOf (operationId payload : String) (sequence : Int) : DispatchPermit :=
  { World.issuedPermit with
    operationId, payloadDigest := payload, sequence, operationFingerprint := fingerprint operationId
    deadlineNs := 10000000000 }

def dispatching (operationId payload : String) (sequence : Int) : List (Request × List Answer) :=
  [(.admitOperation operationId payload "session" sequence none, []),
    (.prepareDispatch (numbered operationId payload sequence) "provider_a", [])]

def binding (operationId : String) (sequence : Int) : List (Request × List Answer) :=
  [(.bindNativeHandshake (permitOf operationId World.payload sequence) 2 2 "helper_a" "provider_a"
      "native_a" "android-elapsed-realtime" 1000, [])]

def confirming (operationId payload receiptId : String) (sequence : Int) :
    List (Request × List Answer) :=
  [(.confirmOperation (permitOf operationId payload sequence) ⟨receiptId, .succeeded, World.payload⟩,
      [])]

def cleaning (operationId : String) (sequence : Int) : List (Request × List Answer) :=
  [(.confirmNativeCleanup (permitOf operationId cleanupDigest sequence), [])]

def cleaned : List (Request × List Answer) :=
  dispatching "start" World.payload 1 ++ binding "start" 1 ++
    confirming "start" World.payload "receipt_a" 1 ++ dispatching "cleanup" cleanupDigest 2 ++
    confirming "cleanup" cleanupDigest "receipt_b" 2

def freshCleanup : List Entry :=
  history fieldsDigest claimedSession (cleaned ++ cleaning "cleanup" 2 ++ [(Request.close, [])])

theorem freshCleanup_called : freshCleanup ≠ [] := by decide +kernel

theorem freshCleanup_shown :
    let last := freshCleanup.getLast freshCleanup_called
    Genuine freshCleanup ∧ Fresh freshCleanup ∧ last.Releases ∧
      ∃ b ∈ freshCleanup.dropLast, b.Binds last.before.self.generation := by
  decide +kernel

theorem freshCleanup_released : ∃ before e after, freshCleanup = before ++ e :: after ∧
    ∃ d ∈ sinceHandshake e.before.self.generation before, ∃ permit, d.Dispatches permit ∧ ∃ o,
      e.before.site.store.operation permit.operationId = some o ∧
      o.payloadDigest = fieldsDigest DeviceAuthority.cleanupPayload ∧ o.status = .succeeded := by
  have listed := (List.dropLast_append_getLast freshCleanup_called).symm
  obtain ⟨genuine, fresh, releases, binds⟩ := freshCleanup_shown
  exact ⟨_, _, _, listed, released_after_cleanup fieldsDigest claimedSession_claimed
    (cleaned ++ cleaning "cleanup" 2 ++ [(Request.close, [])]) genuine fresh listed releases binds⟩

/-- The helper is bound again after its cleanup, and the cleanup's permit is shown all the same. -/
def staleCleanup : List Entry :=
  history fieldsDigest claimedSession
    (cleaned ++ dispatching "rebind" World.payload 3 ++ binding "rebind" 3 ++
      confirming "rebind" World.payload "receipt_c" 3 ++ cleaning "cleanup" 2 ++ [(Request.close, [])])

theorem staleCleanup_called : staleCleanup ≠ [] := by decide +kernel

theorem staleCleanup_shown :
    let last := staleCleanup.getLast staleCleanup_called
    Genuine staleCleanup ∧ last.Releases ∧
      (∃ b ∈ staleCleanup.dropLast, b.Binds last.before.self.generation) ∧
      ∀ d ∈ sinceHandshake last.before.self.generation staleCleanup.dropLast,
        d.request.dispatched? d.outcome = none := by
  decide +kernel

theorem staleCleanup_released : claimedSession.Claimed ∧ Genuine staleCleanup ∧
    ∃ before e after, staleCleanup = before ++ e :: after ∧ e.Releases ∧
      (∃ b ∈ before, b.Binds e.before.self.generation) ∧
      ∀ d ∈ sinceHandshake e.before.self.generation before, ∀ permit, ¬ d.Dispatches permit := by
  obtain ⟨genuine, releases, binds, none⟩ := staleCleanup_shown
  refine ⟨claimedSession_claimed, genuine, _, _, _, (List.dropLast_append_getLast staleCleanup_called).symm, releases,
    binds, ?_⟩
  intro d since permit dispatches
  cases (none d since).symm.trans dispatches

end Example

end Reproof.Live.Authority

import Reproof.Live.Lab.Sequences

/-! The counter of a session over its runs. -/

namespace Reproof.Live.Lab.State

open Contracts Library StateStore
open Authority (DeviceAuthority Answer)

variable {sha256 : String → String} {canonicalDigest : Authority.Json → String} {s : State}
  {call : Nat} {effect : Effect}

theorem pending_of_get? {phase : Phase} (found : s.inside.get? call = some (effect, phase)) (n : Int) :
    phase.pending s.authoritySequence = some n ↔ s.Pending call n := by
  unfold Pending
  rw [found]
  simp

theorem pending_of_absent (absent : s.inside.get? call = none) (n : Int) : ¬ s.Pending call n := by
  unfold Pending
  rw [absent]
  simp

theorem Tracked.enter (tracked : s.Tracked) : (s.enter call effect).Tracked := by
  unfold State.enter
  split
  · rename_i entered
    have absent := Dict.get?_eq_none.mpr entered.1
    refine tracked.moved (show _ = s.inside.set call (effect, .entered) from rfl) rfl rfl rfl
      (fun n => ?_) trivial
    exact ⟨nofun, fun h => absurd h (pending_of_absent absent n)⟩
  · exact tracked

theorem Tracked.reads (tracked : s.Tracked) : (s.read call).Tracked := by
  unfold State.read
  split
  · rename_i found scope
    exact tracked.moved rfl rfl rfl rfl (fun n => pending_of_get? found n) ⟨scope, rfl⟩
  · exact tracked

theorem Tracked.fetch (tracked : s.Tracked) : (s.fetch call).Tracked := by
  unfold State.fetch
  split
  · rename_i found
    exact tracked.moved rfl rfl rfl rfl (fun n => pending_of_get? found n) trivial
  · exact tracked

theorem Tracked.write (tracked : s.Tracked)
    (alone : ∀ entry ∈ s.inside.entries, entry.1 ≠ call → ¬ entry.2.2.Counting) :
    (s.write call).Tracked := by
  unfold State.write
  split
  · rename_i effect value found
    obtain ⟨scope, rfl⟩ := tracked.fits call _ found
    have idle : ∀ c entry, c ≠ call → s.inside.get? c = some entry → ¬ entry.2.Counting :=
      fun c entry other found => alone (c, entry) (Dict.mem_entries.mpr found) other
    have free : ∀ n, ¬ s.Pending call n := fun n => mt (pending_of_get? found n).mpr nofun
    have counter : s.counter = s.authoritySequence := by
      rw [State.counter, scope]
      rfl
    refine tracked.advance call tracked.marked rfl ?_ (fun c n => ?_)
      (fits_set rfl scope fun c entry other found => Phase.fits_of_not_counting (idle c entry other found) _ _)
    · change s.retainedScope.elim (s.authoritySequence + 1) Prod.snd = _
      rw [counter, scope]
      rfl
    · rw [counter]
      exact pending_take rfl rfl (free n) idle
  · exact tracked

theorem Tracked.takeRetained (tracked : s.Tracked) {required : Bool} :
    (s.takeRetained call required).Tracked := by
  unfold State.takeRetained
  split
  · rename_i effect scope sequence found retained
    have free : ∀ n, ¬ s.Pending call n := fun n => mt (pending_of_get? found n).mpr nofun
    have idle : ∀ c entry, c ≠ call → s.inside.get? c = some entry → ¬ entry.2.Counting := by
      rintro c ⟨effect', phase⟩ _ found' counting
      have fits := tracked.fits c _ found'
      rw [retained] at fits
      cases phase with
      | read => cases fits.1
      | written => cases fits
      | _ => exact counting
    have counter : s.counter = sequence := by
      rw [State.counter, retained]
      rfl
    split
    · refine tracked.advance call tracked.marked rfl (congrArg (· + 1) counter.symm)
        (fun c n => ?_)
        (fits_set rfl trivial fun c entry other found => Phase.fits_of_not_counting (idle c entry other found) _ _)
      rw [counter]
      exact pending_take rfl rfl (free n) idle
    · exact tracked.left rfl rfl rfl tracked.marked rfl free
  · exact tracked

/-- What the request of an accepted sequence comes to. -/
theorem Tracked.request (tracked : s.Tracked) {sequence : Int} {lookup status clock write : Answer}
    (more : List Answer) (next : sequence = s.watermark + 1)
    (accepts : s.Accepts sha256 canonicalDigest effect sequence lookup status clock write) :
    ∃ admission before after, (s.request sha256 canonicalDigest effect sequence).run
        (lookup :: status :: clock :: write :: more) s.authority =
          Authority.committed admission before after more write.fate ∧
      after.self = s.self ∧ (after.site.store.shard s.self.deviceFingerprint).Marked ∧
      (after.site.store.shard s.self.deviceFingerprint).watermark s.key = some sequence := by
  obtain ⟨⟨opened, named, digested, session, high⟩, ⟨looked, seen, -⟩, absent, ⟨d, device, owned⟩, grant,
    granted, now, reading, early, admits⟩ := accepts
  have granted : s.self.parentGrant = some grant := granted
  have key : s.key = (s.self.generation, grant.controllerId) := by rw [State.key, granted]; rfl
  have reading : clock.reading = .ok now := by
    cases at_clock : clock.reading with
    | error e => rw [at_clock] at reading; cases reading
    | ok n => rw [at_clock] at reading; cases reading; rfl
  have spared := trans_of (Authority.Site.Spares s.self.deviceFingerprint)
    (trans_of (Authority.Site.Spares s.self.deviceFingerprint)
      (s.authority.site.heard_spares (w := lookup)) (Authority.Site.heard_spares (w := status)))
    (Authority.Site.heard_spares (w := write))
  have marked := spared.later.marked tracked.marked
  obtain ⟨store, admitted, watermark⟩ := admitOperation_ok (v := s.self.admissionValues canonicalDigest
    grant (s.identifier sha256 effect sequence) effect.payloadDigest ("session_" ++ s.id) sequence now)
    marked admits (by
      change sequence = Option.getD (Shard.watermark _ (s.self.generation, grant.controllerId)) 0 + 1
      rw [next, State.watermark, key]
      exact congrArg (fun w : Option Int => w.getD 0 + 1) (spared.watermark _).symm)
  have low : 1 ≤ sequence := by
    have := tracked.marked.nonneg s.key
    rw [next, State.watermark]
    omega
  refine ⟨_, _, _, DeviceAuthority.run_admitOperation opened granted named digested session ⟨low, high⟩
    looked absent seen device owned reading early admitted, rfl, ?_, ?_⟩
  · exact Later.marked (Later.exec (c := .admitOperation _) admitted) marked
  · rw [key]
    exact watermark

theorem Tracked.admitOperation (tracked : s.Tracked) {lookup status clock write : Answer} {more : List Answer}
    (allowed : s.Allows sha256 canonicalDigest (.admitOperation call lookup status clock write more)) :
    let t := s.admitOperation sha256 canonicalDigest call lookup status clock write more
    t.alive = true → t.Tracked := by
  intro t alive
  unfold t State.admitOperation at *
  unfold Allows at allowed
  cases found : s.inside.get? call with
  | none =>
    simp only [found] at alive ⊢
    exact tracked
  | some entry =>
    obtain ⟨effect, phase⟩ := entry
    cases phase with
    | taken sequence =>
      simp only [found] at alive allowed ⊢
      obtain ⟨first, accepts⟩ := allowed
      have taken : s.Pending call sequence := (pending_of_get? found sequence).mp rfl
      have least : ∀ c m, s.Pending c m → sequence ≤ m := by
        rintro c m ⟨entry, at_c, at_m⟩
        exact first (c, entry) (Dict.mem_entries.mpr at_c) m at_m
      have settled := accepts.2.1.2.2
      obtain ⟨admission, before, after, run, same, marked, watermark⟩ :=
        tracked.request more (tracked.first taken least) accepts
      rw [run] at alive ⊢
      have reached : ∀ t : State, t.authority = after → t.watermark = sequence := by
        rintro t rfl
        change t.self = s.self at same
        rw [State.watermark, State.key, same]
        exact congrArg (fun w : Option Int => w.getD 0) watermark
      have kept : ∀ t : State, t.authority = after →
          (t.store.shard t.self.deviceFingerprint).Marked := by
        rintro t rfl
        change t.self = s.self at same
        rw [same]
        exact marked
      cases fate : write.fate with
      | done =>
        refine tracked.admitted taken least (kept _ rfl) (reached _ rfl) rfl (fun c m => ?_)
          (fits_set rfl trivial fun c entry _ found => tracked.fits c entry found)
        rw [pending_set rfl]
        exact ⟨fun h => h.resolve_left fun new => (by cases new.2), .inr⟩
      | failed applied =>
        cases applied with
        | false => exact absurd fate settled
        | true =>
          exact tracked.admitted taken least (kept _ rfl) (reached _ rfl) rfl
            (fun c m => pending_erase rfl rfl) (fits_erase tracked rfl rfl rfl)
      | crashed applied =>
        rw [fate] at alive
        cases alive
    | _ =>
      simp only [found] at alive ⊢
      exact tracked

theorem dispatched_inside (s : State) (effect : Effect) : (s.dispatched effect).inside = s.inside := by
  unfold dispatched
  split <;> rfl

theorem dispatched_sequence (s : State) (effect : Effect) :
    (s.dispatched effect).authoritySequence = s.authoritySequence := by
  unfold dispatched
  split <;> rfl

theorem dispatched_scope (s : State) (effect : Effect) :
    (s.dispatched effect).retainedScope = s.retainedScope := by
  unfold dispatched
  split <;> rfl

/-- The handle and its watermarks are as they were. -/
theorem Tracked.spared (tracked : s.Tracked) {t : State}
    (spared : s.authority.Spares s.self t.authority) :
    (t.store.shard t.self.deviceFingerprint).Marked ∧ t.watermark = s.watermark := by
  obtain ⟨same, spared⟩ := spared rfl
  change t.self = s.self at same
  rw [State.watermark, State.watermark, State.key, State.key, same]
  exact ⟨spared.later.marked tracked.marked,
    congrArg (fun w : Option Int => w.getD 0) (spared.watermark _)⟩

theorem Tracked.dispatch (tracked : s.Tracked) {answers : List Answer} :
    let t := s.dispatch call answers
    t.alive = true → t.Tracked := by
  intro t alive
  unfold t State.dispatch at *
  cases found : s.inside.get? call with
  | none =>
    simp only [found] at alive ⊢
    exact tracked
  | some entry =>
    obtain ⟨effect, phase⟩ := entry
    cases phase with
    | admitted admission =>
      simp only [found] at alive ⊢
      have free : ∀ n, ¬ s.Pending call n := fun n => mt (pending_of_get? found n).mpr (fun h => by cases h)
      have spared : s.authority.Spares s.self
          ((DeviceAuthority.prepareDispatch admission s.providerIncarnation).run answers s.authority).2.2 :=
        DeviceAuthority.prepareDispatch_spares.run answers s.authority
      cases run : (DeviceAuthority.prepareDispatch admission s.providerIncarnation).run answers
        s.authority with
      | mk outcome after =>
        obtain ⟨rest, authority⟩ := after
        rw [run] at spared alive
        have left : ∀ t : State, t.authority = authority → t.inside = s.inside.erase call →
            t.authoritySequence = s.authoritySequence → t.retainedScope = s.retainedScope →
            t.Tracked := by
          rintro t rfl inside sequence scope
          obtain ⟨marked, watermark⟩ := tracked.spared spared
          exact tracked.left inside sequence scope marked watermark free
        cases outcome with
        | done => exact left _ rfl (dispatched_inside ..) (dispatched_sequence ..) (dispatched_scope ..)
        | raised => exact left _ rfl rfl rfl rfl
        | crashed => cases alive
    | _ =>
      simp only [found] at alive ⊢
      exact tracked

theorem Tracked.serve (tracked : s.Tracked) (event : Event)
    (allowed : s.Allows sha256 canonicalDigest event)
    (alive : (s.serve sha256 canonicalDigest event).alive = true) :
    (s.serve sha256 canonicalDigest event).Tracked := by
  cases event with
  | enter => exact tracked.enter
  | read => exact tracked.reads
  | write => exact tracked.write allowed
  | fetch => exact tracked.fetch
  | takeRetained => exact tracked.takeRetained
  | admitOperation => exact tracked.admitOperation allowed alive
  | dispatch => exact tracked.dispatch alive
  | turn => exact tracked.keep tracked.marked rfl rfl (fun _ _ => Iff.rfl) tracked.fits
  | settle => exact tracked.keep tracked.marked rfl rfl (fun _ _ => Iff.rfl) tracked.fits
  | journal c =>
    dsimp only [State.serve]
    split
    · rename_i spared
      have step := shard_step s.store s.self.deviceFingerprint c
      refine tracked.keep (step.marked tracked.marked) ?_ rfl (fun _ _ => Iff.rfl) tracked.fits
      refine congrArg (fun w : Option Int => w.getD 0) (step.watermark_eq s.key ?_)
      rintro v rfl
      exact spared
    · exact tracked
  | handle self =>
    dsimp only [State.serve]
    split
    · rename_i same
      obtain ⟨device, generation, controller⟩ := same
      have key : ∀ t : State, t.self = self → t.key = s.key := by
        rintro t rfl
        rw [State.key, State.key, generation, controller]
      refine tracked.keep ?_ ?_ rfl (fun _ _ => Iff.rfl) tracked.fits
      · change (s.store.shard self.deviceFingerprint).Marked
        rw [device]
        exact tracked.marked
      · rw [State.watermark, State.watermark, key _ rfl]
        change ((s.store.shard self.deviceFingerprint).watermark _).getD 0 = _
        rw [device]
    · exact tracked

theorem Tracked.run {events : List Event} (tracked : s.alive = true → s.Tracked)
    (orderly : s.Orderly sha256 canonicalDigest events)
    (alive : (s.run sha256 canonicalDigest events).alive = true) :
    (s.run sha256 canonicalDigest events).Tracked := by
  induction events generalizing s with
  | nil => exact tracked alive
  | cons event events ih =>
    obtain ⟨allowed, orderly⟩ := orderly
    refine ih (fun alive => ?_) orderly alive
    unfold State.apply at alive ⊢
    split at alive
    · rename_i live
      rw [if_pos live]
      exact (tracked live).serve event allowed alive
    · rename_i dead
      exact absurd alive dead

/-- A session begins with no call inside and its counter at the watermark. -/
theorem begin_tracked {site : Authority.Site} {self : DeviceAuthority} {id provider : String}
    {scope : Option (String × Int)} (marked : (site.store.shard self.deviceFingerprint).Marked)
    (follows : (begin site self id provider scope).Follows) :
    (begin site self id provider scope).Tracked := by
  have free : ∀ call n, ¬ (begin site self id provider scope).Pending call n :=
    fun call n => pending_of_absent rfl n
  have same := add_right_cancel follows
  exact {
    marked := marked
    le := Int.le_of_eq same.symm
    fits := fun _ _ found => nomatch found
    bounds := fun call n h => absurd h (free call n)
    distinct := fun call _ n h => absurd h (free call n)
    covered := fun n low high => by omega }

/-- A session whose handle has just been claimed begins at the watermark. -/
theorem begin_follows {authority : Authority.HostAuthority} {δ kind helper id provider : String}
    {issuer : Nat} {site t : Authority.Site} {handle : DeviceAuthority} {others : List Call}
    {grant : Authority.ParentGrant} {now : Int} {device : Device}
    (claim : Authority.Claim authority δ kind helper issuer site t handle others grant now device)
    (marked : (site.store.shard δ).Marked) (owned : device.status = .owned) :
    (begin t handle id provider none).Follows := by
  have fresh := claimed_watermark (Authority.Site.after_later.marked marked) claim.claimed owned
    grant.controllerId
  have watermark : (begin t handle id provider none).watermark = 0 := by
    unfold watermark key State.self store begin
    simp only [claim.handle, owned, if_true, Option.map_some, Option.getD_some, fresh, Option.getD_none]
  unfold Follows
  rw [watermark]
  rfl

/-- The counter of a session follows the watermark of its handle, when no call counts into another's
count and no admission is refused or out of turn. -/
theorem run_follows (sha256 : String → String) (canonicalDigest : Authority.Json → String)
    {calls : List Call} {site : Authority.Site} {self : DeviceAuthority} {id provider : String}
    {scope : Option (String × Int)} (reached : site.store = StateStore.run calls)
    (start : (begin site self id provider scope).Follows) (events : List Event)
    (orderly : (begin site self id provider scope).Orderly sha256 canonicalDigest events) :
    let s := (begin site self id provider scope).run sha256 canonicalDigest events
    s.alive = true → s.Quiet → s.Follows := by
  intro s alive quiet
  refine Tracked.follows (Tracked.run (fun _ => begin_tracked ?_ start) orderly alive) quiet
  rw [reached]
  exact run_marked calls

/-! A session starts its app, dispatches an input and is closed. -/

section Example

/-- A digest of the identifier of an operation stands for that of all its fields. -/
def labDigest : Authority.Json → String
  | .obj (_ :: _ :: (_, .str operationId) :: _) => operationId
  | _ => ""

def labClaim : Call :=
  .claimDevice "device" "android" "host" "helper" ⟨"grant", "project", "controller", 1, 100, "mapping"⟩ 0

def labSite : Authority.Site := ⟨StateStore.run [labClaim], some ⟨.shared, "root"⟩, true⟩

def labHandle : DeviceAuthority where
  authority := ⟨"host", "root", 1, false⟩
  deviceKind := "android"
  deviceFingerprint := "device"
  generation := 1
  helperIncarnation := "helper"
  parentGrant := some ⟨⟨"grant", "project", "controller", 1, 100, "mapping"⟩, 1⟩
  issuer := 2
  leased := true
  closed := false
  dispatchRevoked := false
  nativeHelperAttached := false
  nativeCleanupConfirmed := false
  released := false
  nativeRecoveryBorrows := false

def labSession : State := begin labSite labHandle "session" "provider" none

def labEffect (caller : Caller) (operationId : String) : Effect :=
  ⟨caller, "command", String.ofList (List.replicate 64 'a'), some operationId⟩

/-- An effect up to its admission. -/
def admission (call : Nat) (caller : Caller) (operationId : String) : List Event :=
  [.enter call (labEffect caller operationId), .read call, .write call, .fetch call,
    .admitOperation call {} {} {} {} []]

def receipt (operationId : String) : Event :=
  .journal (.acknowledgeResult ("receipt_" ++ operationId) operationId operationId 1 "host" "provider"
    .succeeded "" 1)

theorem run_follows_closing :
    let s := labSession.run (fun text => text) labDigest (admission 0 .startup "start" ++ [.dispatch 0 [], receipt "start",
      .turn .active false] ++ admission 1 (.input "tap") "tap" ++ [.dispatch 1 [], receipt "tap",
      .turn .draining true] ++ admission 2 .cleanup "cleanup" ++ [.dispatch 2 []])
    s.Follows :=
  run_follows (fun text => text) labDigest (show labSite.store = StateStore.run [labClaim] from rfl)
    (by decide +kernel) _ (by decide +kernel) (by decide +kernel) (by decide +kernel)

/-- An input comes while another is in flight. -/
def labInputs : List Event :=
  admission 0 .startup "start" ++ [.dispatch 0 [], receipt "start", .turn .active false] ++
    admission 1 (.input "tap") "tap" ++ [Event.dispatch 1 []] ++ admission 2 (.input "swipe") "swipe" ++
    [receipt "tap", .settle "tap", .turn .draining true]

/-- The device is owned again, and the cleanup of the session is refused. -/
theorem refused_cleanup :
    let s := labSession.run (fun text => text) labDigest labInputs
    s.alive = true ∧ s.Quiet ∧ ¬ s.Follows ∧ (s.store.device "device").map (·.status) = some .owned ∧
      ((s.request (fun text => text) labDigest (labEffect .cleanup "cleanup") (s.counter + 1)).run [] s.authority).1 =
        .raised (.contract "Operation sequence is not contiguous") := by
  decide +kernel

end Example

end Reproof.Live.Lab.State

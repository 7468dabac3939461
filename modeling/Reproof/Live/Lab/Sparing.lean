import Reproof.Live.Authority.Keeping
import Reproof.Live.Lab.Admission

/-! What the methods of a handle leave of the watermarks of its device. -/

namespace Reproof.Live.Authority

open Contracts Library StateStore
open Prog (Guarantees)

variable {δ : String} {α : Type} {a : DeviceAuthority}

/-- The journal has moved on, and the watermarks of the device `δ` have not. -/
structure Site.Spares (δ : String) (s t : Site) : Prop where
  later : s.store.Later t.store
  watermark : ∀ k, (t.store.shard δ).watermark k = (s.store.shard δ).watermark k

instance : Std.Refl (Site.Spares δ) := ⟨fun s => ⟨Later.refl s.store, fun _ => rfl⟩⟩

instance : IsTrans Site (Site.Spares δ) :=
  ⟨fun _ _ _ h h' => ⟨h.later.trans h'.later, fun k => (h'.watermark k).trans (h.watermark k)⟩⟩

/-- The handle `a` is as it was, and the watermarks of its device are. -/
def Session.Spares (a : DeviceAuthority) (s t : Session) : Prop :=
  s.self = a → t.self = a ∧ s.site.Spares a.deviceFingerprint t.site

instance : Std.Refl (Session.Spares a) := ⟨fun s same => ⟨same, refl_of (Site.Spares _) s.site⟩⟩

instance : IsTrans Session (Session.Spares a) where
  trans _ _ _ h h' same :=
    have ⟨same, spared⟩ := h same
    have ⟨same, spared'⟩ := h' same
    ⟨same, trans_of (Site.Spares _) spared spared'⟩

theorem Site.after_spares (site : Site) {others : List Call} (foreign : ∀ c ∈ others, c.Foreign δ) :
    site.Spares δ (site.after others) :=
  ⟨Site.after_later, foreign_watermark foreign⟩

theorem query_spares {f : StateStore → α} : Guarantees (Site.Spares δ) (query δ f) := fun site =>
  wp_query fun _ foreign => ⟨site.after_spares foreign, site.after_spares foreign⟩

theorem sample_spares : Guarantees (Site.Spares δ) sample := .bind .answer fun _ => .ofExcept

theorem journal_spares {c : Call} (other : ∀ v, c ≠ .admitOperation v) :
    Guarantees (Site.Spares δ) (journal δ c) := by
  intro site
  apply wp_journal
  intro others foreign
  have before := site.after_spares foreign
  refine ⟨fun _ => before, before, fun reply store done => ?_⟩
  have applied : (site.after others).store.apply c = store := by simp [apply, done]
  have after : site.Spares δ { site.after others with store } := by
    refine trans_of (Site.Spares δ) before ⟨Later.exec done, fun k => ?_⟩
    rw [← applied]
    exact (shard_step _ δ c).watermark_eq k fun v same => absurd same (other v)
  exact ⟨after, after, after⟩

theorem onSite_spares {p : Effect α} (h : Guarantees (Site.Spares a.deviceFingerprint) p) :
    Guarantees (Session.Spares a) (onSite p) := by
  intro session
  rw [wp_onSite]
  refine Prog.wp_mono (h session.site) (fun _ _ spared same => ⟨same, spared⟩)
    (fun _ _ spared same => ⟨same, spared⟩) fun _ spared same => ⟨same, spared⟩

namespace DeviceAuthority

/-- A method reads the handle it runs on. -/
theorem self_spares {f : DeviceAuthority → Method α} (h : Guarantees (Session.Spares a) (f a)) :
    Guarantees (Session.Spares a) (self >>= f) := by
  intro session
  simp only [self, Prog.wp_bind, Prog.wp_read, Prog.wp_pure]
  by_cases same : session.self = a
  · rw [same]
    exact h session
  · exact Prog.wp_mono (Prog.returns_any _ _) (fun _ _ _ same' => absurd same' same)
      (fun _ _ _ same' => absurd same' same) fun _ _ same' => absurd same' same

theorem requireOpen_spares : Guarantees (Session.Spares a) requireOpen :=
  self_spares (.bind ensure_keeps fun _ => onSite_spares ensure_keeps)

theorem now_spares : Guarantees (Session.Spares a) now := by
  refine .bind requireOpen_spares fun _ => self_spares (.bind ensure_keeps fun _ =>
    .rescue (onSite_spares sample_spares) fun e => ?_)
  cases e with
  | other => exact .raise
  | contract message =>
    refine .bind (.rescue (.bind (onSite_spares sample_spares) fun _ => .pure) fun e => ?_) fun _ =>
      .bind (onSite_spares (journal_spares fun _ same => by cases same)) fun _ => .raise
    cases e with
    | other => exact .raise
    | contract message => exact .pure

theorem prepareDispatch_spares {admission : OperationAdmission} {provider : String} :
    Guarantees (Session.Spares a) (prepareDispatch admission provider) :=
  .bind requireOpen_spares fun _ => self_spares (.bind ensure_keeps fun _ =>
    .bind ensure_keeps fun _ => .bind now_spares fun _ => .bind row_keeps fun _ =>
    .ite (.bind (onSite_spares (journal_spares fun _ same => by cases same)) fun _ => .raise)
      (.bind (onSite_spares (journal_spares fun _ same => by cases same)) fun _ => .bind row_keeps fun _ => .pure))

end DeviceAuthority

section Run

variable {site : Site} {w : Answer} {rest : List Answer}

/-- The site when an answer has come: the calls of other owners have reached the journal first. -/
def Site.heard (site : Site) (δ : String) (w : Answer) : Site :=
  site.after (w.others.filter (·.Foreign δ))

theorem Site.heard_spares : site.Spares δ (site.heard δ w) := by
  refine site.after_spares fun c hc => ?_
  simpa using (List.mem_filter.mp hc).2

theorem run_interfere :
    (interfere δ).run (w :: rest) site = (.done w, rest, site.heard δ w) := by
  simp only [interfere, Prog.run_bind, Prog.run_answer, Prog.run_modify, Prog.run_pure]
  rfl

theorem run_query {f : StateStore → α} {self : DeviceAuthority} (found : w.fate = .done) :
    (onSite (query δ f)).run (w :: rest) ⟨site, self⟩ =
      (.done (f (site.heard δ w).store), rest, ⟨site.heard δ w, self⟩) := by
  simp only [run_onSite, query, Prog.run_bind, run_interfere, Prog.run_read, ensure, Prog.run_ensure,
    found, if_true, Prog.run_pure]

theorem run_sample :
    sample.run (w :: rest) site =
      match w.reading with
      | .ok now => (.done now, rest, site)
      | .error e => (.raised e, rest, site) := by
  simp only [sample, Prog.run_bind, Prog.run_answer]
  cases w.reading <;> rfl

/-- What the fate of a write makes of a transaction that the journal accepts. -/
def committed {α : Type} (reply : α) (before after : Session) (rest : List Answer) :
    Fate → Outcome Failure α × List Answer × Session
  | .done => (.done reply, rest, after)
  | .failed applied =>
    (.raised (.contract operationFailed), rest, if applied = true then after else before)
  | .crashed applied => (.crashed, rest, if applied = true then after else before)

theorem run_journal_ok (c : Call) {reply : c.Reply} {store : StateStore} (self : DeviceAuthority)
    (rest : List Answer) (done : (site.heard δ w).store.exec c = .ok (reply, store)) :
    (onSite (journal δ c)).run (w :: rest) ⟨site, self⟩ =
      committed reply ⟨site.heard δ w, self⟩ ⟨{ site.heard δ w with store }, self⟩ rest w.fate := by
  simp only [run_onSite, journal, Prog.run_bind, run_interfere, Prog.run_read, done, Prog.run_write]
  cases w.fate with
  | done => rfl
  | failed applied => cases applied <;> rfl
  | crashed applied => cases applied <;> rfl

end Run

namespace DeviceAuthority

variable {site : Site} {lookup status clock write : Answer} {more rest : List Answer}

/-- The handle and its host are open. -/
def Opened (self : DeviceAuthority) : Prop :=
  (self.closed = false ∧ self.leased = true) ∧ self.authority.closed = false

instance : DecidablePred Opened := fun _ => inferInstanceAs (Decidable (_ ∧ _))

theorem run_requireOpen (opened : a.Opened) :
    requireOpen.run rest ⟨site, a⟩ = (.done (), rest, ⟨site, a⟩) := by
  simp only [requireOpen, self, HostAuthority.requireOpen, ensure, Prog.run_bind, Prog.run_read,
    Prog.run_pure, Prog.run_ensure, run_onSite, opened.1, opened.2, and_self, if_true]

theorem run_now (opened : a.Opened) (granted : a.parentGrant.isSome) {now : Int}
    (reading : clock.reading = .ok now) :
    DeviceAuthority.now.run (clock :: rest) ⟨site, a⟩ = (.done now, rest, ⟨site, a⟩) := by
  simp only [DeviceAuthority.now, self, ensure, Prog.run_bind, Prog.run_read, Prog.run_pure,
    Prog.run_ensure, run_requireOpen opened, granted, if_true, Prog.run_rescue, run_onSite, run_sample,
    reading]

/-- The row that an admission under the deadline of the grant asks the journal for. -/
def admissionValues (canonicalDigest : Json → String) (self : DeviceAuthority) (grant : ParentGrant)
    (operationId payloadDigest sessionId : String) (sequence now : Int) : OperationValues where
  operationId := operationId
  operationFingerprint := canonicalDigest
    (self.admissionFields grant operationId payloadDigest sessionId sequence grant.localDeadlineNs)
  deviceFingerprint := self.deviceFingerprint
  protocolVersion := protocolVersion
  generation := self.generation
  projectId := grant.projectId
  sessionId := sessionId
  controllerId := grant.controllerId
  sequence := sequence
  payloadDigest := payloadDigest
  hostIncarnation := self.authority.hostIncarnation
  helperIncarnation := self.helperIncarnation
  deadlineNs := grant.localDeadlineNs
  admittedNs := now

variable {canonicalDigest : Json → String} {operationId payloadDigest sessionId : String}
  {sequence : Int}

/-- An admission that passes every check before the journal's. -/
theorem run_admitOperation {grant : ParentGrant} {now : Int} {d : Device} {operation : Operation}
    {isNew : Bool} {store : StateStore} (opened : a.Opened) (granted : a.parentGrant = some grant)
    (named : isIdentifier operationId) (digested : isDigest payloadDigest)
    (session : isIdentifier sessionId) (range : 1 ≤ sequence ∧ sequence ≤ maxSequence)
    (looked : lookup.fate = .done)
    (absent : (site.heard a.deviceFingerprint lookup).store.operation operationId = none)
    (seen : status.fate = .done)
    (device : ((site.heard a.deviceFingerprint lookup).heard a.deviceFingerprint status).store.device
      a.deviceFingerprint = some d) (owned : d.status = .owned)
    (reading : clock.reading = .ok now) (early : now < grant.localDeadlineNs)
    (done : (((site.heard a.deviceFingerprint lookup).heard a.deviceFingerprint status).heard
      a.deviceFingerprint write).store.admitOperation (a.admissionValues canonicalDigest grant operationId
        payloadDigest sessionId sequence now) = .ok ((some operation, isNew), store)) :
    (admitOperation canonicalDigest operationId payloadDigest sessionId sequence none).run
      (lookup :: status :: clock :: write :: more) ⟨site, a⟩ =
      committed (a.admissionFromRow operation isNew)
        ⟨((site.heard a.deviceFingerprint lookup).heard a.deviceFingerprint status).heard
          a.deviceFingerprint write, a⟩
        ⟨{ ((site.heard a.deviceFingerprint lookup).heard a.deviceFingerprint status).heard
          a.deviceFingerprint write with store }, a⟩ more write.fate := by
  have journalled := run_journal_ok (.admitOperation _) a more done
  have present : a.parentGrant.isSome := by rw [granted]; rfl
  simp only [admitOperation, identifier, digest, integer, ensure, Prog.run_bind, run_requireOpen opened,
    Prog.run_ensure, named, digested, session, range, and_self, if_true, self, Prog.run_read,
    Prog.run_pure, granted, Authority.present, operationRow, run_query looked, absent,
    DeviceAuthority.status, deviceRow, run_query seen, device, owned, run_now opened present reading,
    Option.getD_none, Int.min_self, early]
  rw [Int.min_self]
  unfold admissionValues at journalled
  rw [journalled]
  cases write.fate <;> rfl

end DeviceAuthority

end Reproof.Live.Authority

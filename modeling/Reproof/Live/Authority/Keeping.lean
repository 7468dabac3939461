import Reproof.Live.Authority.Frame

/-! What a method that neither closes nor reconciles keeps. -/

namespace Reproof.Live.Authority

open Library StateStore

variable {δ : String} {α : Type}

structure Site.Keeps (s t : Site) : Prop where
  later : s.store.Later t.store
  marker : t.marker = s.marker
  locked : t.locked = s.locked

instance : Std.Refl Site.Keeps := ⟨fun s => ⟨Later.refl s.store, rfl, rfl⟩⟩

instance : IsTrans Site Site.Keeps :=
  ⟨fun _ _ _ h h' => ⟨h.later.trans h'.later, h'.marker.trans h.marker, h'.locked.trans h.locked⟩⟩

structure Session.Keeps (s t : Session) : Prop where
  site : s.site.Keeps t.site
  authority : t.self.authority = s.self.authority
  fingerprint : t.self.deviceFingerprint = s.self.deviceFingerprint
  generation : t.self.generation = s.self.generation
  issuer : t.self.issuer = s.self.issuer
  leased : t.self.leased = s.self.leased
  closed : t.self.closed = s.self.closed
  revoked : s.self.dispatchRevoked → t.self.dispatchRevoked

instance : Std.Refl Session.Keeps :=
  ⟨fun s => ⟨refl_of Site.Keeps s.site, rfl, rfl, rfl, rfl, rfl, rfl, id⟩⟩

instance : IsTrans Session Session.Keeps where
  trans _ _ _ h h' :=
    { site := trans_of Site.Keeps h.site h'.site
      authority := h'.authority.trans h.authority
      fingerprint := h'.fingerprint.trans h.fingerprint
      generation := h'.generation.trans h.generation
      issuer := h'.issuer.trans h.issuer
      leased := h'.leased.trans h.leased
      closed := h'.closed.trans h.closed
      revoked := h'.revoked ∘ h.revoked }

open Prog (Guarantees)

abbrev Effect.Keeps (p : Effect α) : Prop := Guarantees Site.Keeps p

abbrev Method.Keeps (p : Method α) : Prop := Guarantees Session.Keeps p

section Effects

theorem Site.keeps_after (site : Site) (others : List Call) : site.Keeps (site.after others) :=
  ⟨Site.after_later, rfl, rfl⟩

theorem sample_keeps : sample.Keeps := .bind .answer fun _ => .ofExcept

theorem journal_keeps {c : Call} : (journal δ c).Keeps := by
  intro site
  apply wp_journal
  intro others _
  have before := site.keeps_after others
  refine ⟨fun _ => before, before, fun reply store done => ?_⟩
  have after : site.Keeps { site.after others with store } :=
    ⟨before.later.trans (Later.exec done), rfl, rfl⟩
  exact ⟨after, after, after⟩

theorem query_keeps {f : StateStore → α} : (query δ f).Keeps := by
  intro site
  apply wp_query
  intro others _
  exact ⟨site.keeps_after others, site.keeps_after others⟩

theorem present_keeps {σ : Type} {rel : σ → σ → Prop} [Std.Refl rel] {value : Option α}
    {message : String} :
    Guarantees rel (present value message : Prog Failure Answer σ α) := by
  cases value with
  | none => exact .raise
  | some a => exact .pure

theorem row_keeps {σ : Type} {rel : σ → σ → Prop} [Std.Refl rel] {value : Option α} :
    Guarantees rel (row value : Prog Failure Answer σ α) := by
  cases value with
  | none => exact .raise
  | some a => exact .pure

theorem ensure_keeps {σ : Type} {rel : σ → σ → Prop} [Std.Refl rel] {p : Prop} [Decidable p]
    {message : String} : Guarantees rel (ensure p message : Prog Failure Answer σ Unit) := .ensure

end Effects

theorem onSite_keeps {p : Effect α} (h : p.Keeps) : (onSite p).Keeps := by
  intro session
  rw [wp_onSite]
  have session_keeps : ∀ site, session.site.Keeps site → session.Keeps { session with site } :=
    fun _ kept => ⟨kept, rfl, rfl, rfl, rfl, rfl, rfl, id⟩
  exact Prog.wp_mono (h session.site) (fun _ => session_keeps) (fun _ => session_keeps) session_keeps

namespace DeviceAuthority

theorem self_keeps : self.Keeps := .bind .read fun _ => .pure

theorem assign_keeps {f : DeviceAuthority → DeviceAuthority}
    (kept : ∀ self, (f self).authority = self.authority ∧
      (f self).deviceFingerprint = self.deviceFingerprint ∧ (f self).generation = self.generation ∧
      (f self).issuer = self.issuer ∧ (f self).leased = self.leased ∧ (f self).closed = self.closed ∧
      (self.dispatchRevoked → (f self).dispatchRevoked)) : (assign f).Keeps := by
  refine .modify fun session => ?_
  obtain ⟨authority, fingerprint, generation, issuer, leased, closed, revoked⟩ := kept session.self
  exact ⟨refl_of Site.Keeps _, authority, fingerprint, generation, issuer, leased, closed, revoked⟩

/-- The reading of a clock that may be incompatible. -/
theorem reading_keeps :
    Method.Keeps (Prog.rescue (some <$> onSite sample) fun
      | .other => .raise .other
      | .contract _ => pure none) := by
  refine .rescue (.bind (onSite_keeps sample_keeps) fun _ => .pure) fun e => ?_
  cases e with
  | contract message => exact .pure
  | other => exact .raise

end DeviceAuthority

/-! What a method that neither closes nor reconciles leaves of its device and of its marks. -/

section Works

/-- The device of the session is clean in its journal. -/
def Session.Clean (s : Session) : Prop := s.site.store.Clean s.self.deviceFingerprint

/-- The journal has moved on, and the device has not come clean. -/
structure Site.Works (δ : String) (s t : Site) : Prop where
  keeps : s.Keeps t
  held : t.store.Clean δ → s.store.Clean δ

instance : Std.Refl (Site.Works δ) := ⟨fun s => ⟨refl_of Site.Keeps s, id⟩⟩

instance : IsTrans Site (Site.Works δ) :=
  ⟨fun _ _ _ h h' => ⟨trans_of Site.Keeps h.keeps h'.keeps, h.held ∘ h'.held⟩⟩

/-- The marks of the handle are as they were. -/
structure DeviceAuthority.SameMarks (h h' : DeviceAuthority) : Prop where
  attached : h'.nativeHelperAttached = h.nativeHelperAttached
  confirmed : h'.nativeCleanupConfirmed = h.nativeCleanupConfirmed
  released : h'.released = h.released

theorem DeviceAuthority.SameMarks.trans {h h' h'' : DeviceAuthority} (same : h.SameMarks h')
    (same' : h'.SameMarks h'') : h.SameMarks h'' :=
  ⟨same'.attached.trans same.attached, same'.confirmed.trans same.confirmed,
    same'.released.trans same.released⟩

structure Session.Working (s t : Session) : Prop where
  keeps : s.Keeps t
  held : t.Clean → s.Clean
  marks : s.self.SameMarks t.self

/-- Of a session of the device `δ`. -/
def Session.Works (δ : String) (s t : Session) : Prop :=
  s.self.deviceFingerprint = δ → s.Working t

instance : Std.Refl (Session.Works δ) :=
  ⟨fun s _ => ⟨refl_of Session.Keeps s, id, rfl, rfl, rfl⟩⟩

instance : IsTrans Session (Session.Works δ) where
  trans _ _ _ h h' named :=
    have first := h named
    have second := h' (first.keeps.fingerprint.trans named)
    ⟨trans_of Session.Keeps first.keeps second.keeps, first.held ∘ second.held,
      first.marks.trans second.marks⟩

abbrev Effect.Works (δ : String) (p : Effect α) : Prop := Guarantees (Site.Works δ) p

abbrev Method.Works (δ : String) (p : Method α) : Prop := Guarantees (Session.Works δ) p

theorem sample_works : sample.Works δ := .bind .answer fun _ => .ofExcept

theorem query_works {f : StateStore → α} : (query δ f).Works δ := by
  intro site
  apply wp_query
  intro others foreign
  have after : site.Works δ (site.after others) :=
    ⟨site.keeps_after others, (Clean.foreigners foreign).mp⟩
  exact ⟨after, after⟩

theorem journal_works {c : Call} (release : ∀ generation host now,
      c ≠ .releaseDevice δ generation host now)
    (finish : ∀ reconciliation fingerprint generation host helper now,
      c ≠ .finishReconciliationCleanup reconciliation fingerprint δ generation host helper now) :
    (journal δ c).Works δ := by
  intro site
  apply wp_journal
  intro others foreign
  have before : site.Works δ (site.after others) :=
    ⟨site.keeps_after others, (Clean.foreigners foreign).mp⟩
  refine ⟨fun _ => before, before, fun reply store done => ?_⟩
  have committed : (site.after others).store.apply c = store := by
    simp only [StateStore.apply, done]
  have after : site.Works δ { site.after others with store } :=
    ⟨⟨before.keeps.later.trans (Later.exec done), rfl, rfl⟩,
      fun clean => before.held (Clean.of_apply release finish (committed ▸ clean))⟩
  exact ⟨after, after, after⟩

theorem checkCutover_works {root : Option String} : (checkCutover root).Works δ := by
  intro site
  apply wp_checkCutover
  · exact fun _ => refl_of (Site.Works δ) site
  · exact fun _ => refl_of (Site.Works δ) site

theorem borrowDescriptor_works {root : String} : (Lease.borrowDescriptor root).Works δ := by
  refine .bind .answer fun w => ?_
  split
  · exact .crash
  · exact .raise
  · exact checkCutover_works

namespace HostAuthority

variable {authority : HostAuthority}

theorem requireParentGrant_works {grant : Option ParentGrant} :
    (authority.requireParentGrant grant).Works δ :=
  .bind present_keeps fun _ => .bind ensure_keeps fun _ => .bind sample_works fun _ =>
    .bind ensure_keeps fun _ => .pure

theorem recordProviderResult_works {canonicalDigest : Json → String}
    {operationId host provider : String} {generation : Int} {result : ProviderResult} :
    (authority.recordProviderResult canonicalDigest δ operationId generation host provider
      result).Works δ :=
  .bind ensure_keeps fun _ => .bind ensure_keeps fun _ => .bind ensure_keeps fun _ =>
    .bind ensure_keeps fun _ => .bind ensure_keeps fun _ => .bind sample_works fun _ =>
      .bind (journal_works nofun nofun) fun _ => row_keeps

end HostAuthority

theorem onSite_works {p : Effect α} (h : p.Works δ) : (onSite p).Works δ := by
  intro session
  rw [wp_onSite]
  have works : ∀ site, session.site.Works δ site → session.Works δ { session with site } :=
    fun _ kept named => ⟨⟨kept.keeps, rfl, rfl, rfl, rfl, rfl, rfl, id⟩, by
      subst named
      exact kept.held, rfl, rfl, rfl⟩
  exact Prog.wp_mono (h session.site) (fun _ => works) (fun _ => works) works

theorem Method.Works.keeps {p : Method α} (h : ∀ δ, p.Works δ) : p.Keeps := fun s =>
  Prog.wp_mono (h s.self.deviceFingerprint s) (fun _ _ works => (works rfl).keeps)
    (fun _ _ works => (works rfl).keeps) fun _ works => (works rfl).keeps

namespace DeviceAuthority

/-- A method reads the handle it runs on. -/
theorem self_works {f : DeviceAuthority → Method α}
    (h : ∀ self : DeviceAuthority, self.deviceFingerprint = δ → (f self).Works δ) :
    (self >>= f).Works δ := by
  intro session
  simp only [self, Prog.wp_bind, Prog.wp_read, Prog.wp_pure]
  by_cases named : session.self.deviceFingerprint = δ
  · exact h session.self named session
  · exact Prog.wp_mono (Prog.returns_any _ _) (fun _ _ _ named' => absurd named' named)
      (fun _ _ _ named' => absurd named' named) fun _ _ named' => absurd named' named

theorem assign_works {f : DeviceAuthority → DeviceAuthority}
    (kept : ∀ self, (f self).authority = self.authority ∧
      (f self).deviceFingerprint = self.deviceFingerprint ∧ (f self).generation = self.generation ∧
      (f self).issuer = self.issuer ∧ (f self).leased = self.leased ∧ (f self).closed = self.closed ∧
      (self.dispatchRevoked → (f self).dispatchRevoked))
    (marks : ∀ self : DeviceAuthority, self.SameMarks (f self)) : (assign f).Works δ := by
  refine .modify fun session _ => ?_
  obtain ⟨authority, fingerprint, generation, issuer, leased, closed, revoked⟩ := kept session.self
  exact ⟨⟨refl_of Site.Keeps _, authority, fingerprint, generation, issuer, leased, closed, revoked⟩,
    fun clean => by rwa [Session.Clean, fingerprint] at clean, marks session.self⟩

theorem requireOpen_works : requireOpen.Works δ :=
  self_works fun _ _ => .bind ensure_keeps fun _ => onSite_works ensure_keeps

theorem deviceRow_works : deviceRow.Works δ := self_works fun _ named => by
  subst named
  exact onSite_works query_works

theorem operationRow_works {operationId : String} : (operationRow operationId).Works δ :=
  self_works fun _ named => by
    subst named
    exact onSite_works query_works

theorem status_works : status.Works δ :=
  .bind requireOpen_works fun _ => .bind deviceRow_works fun _ => .bind present_keeps fun _ => .pure

theorem requiresReconciliation_works : requiresReconciliation.Works δ :=
  .bind status_works fun _ => .pure

theorem reading_works :
    Method.Works δ (Prog.rescue (some <$> onSite sample) fun
      | .other => .raise .other
      | .contract _ => pure none) := by
  refine .rescue (.bind (onSite_works sample_works) fun _ => .pure) fun e => ?_
  cases e with
  | contract message => exact .pure
  | other => exact .raise

theorem now_works : now.Works δ := by
  refine .bind requireOpen_works fun _ => self_works fun self named => .bind ensure_keeps fun _ =>
    .rescue (onSite_works sample_works) fun e => ?_
  subst named
  cases e with
  | contract message =>
    exact .bind reading_works fun _ => .bind (onSite_works (journal_works nofun nofun)) fun _ => .raise
  | other => exact .raise

theorem renew_works {grant : Option ParentGrant} : (renew grant).Works δ := by
  refine .bind requireOpen_works fun _ => self_works fun self named => .bind present_keeps fun _ =>
    .bind ensure_keeps fun _ => .bind now_works fun _ =>
    .bind (onSite_works HostAuthority.requireParentGrant_works) fun _ => ?_
  subst named
  refine .bind (onSite_works (journal_works nofun nofun)) fun reply => ?_
  cases reply with
  | error message => exact .raise
  | ok device =>
    exact .bind (assign_works (fun _ => ⟨rfl, rfl, rfl, rfl, rfl, rfl, id⟩)
      fun _ => ⟨rfl, rfl, rfl⟩) fun _ => .bind row_keeps fun _ => .pure

theorem admitOperation_works {canonicalDigest : Json → String}
    {operationId payloadDigest sessionId : String} {sequence : Int} {deadlineNs : Option Int} :
    (admitOperation canonicalDigest operationId payloadDigest sessionId sequence
      deadlineNs).Works δ := by
  refine .bind requireOpen_works fun _ => .bind ensure_keeps fun _ => .bind ensure_keeps fun _ =>
    .bind ensure_keeps fun _ => .bind ensure_keeps fun _ => self_works fun self named =>
    .bind present_keeps fun _ => .bind operationRow_works fun existing => ?_
  subst named
  cases existing with
  | some existing => exact .bind ensure_keeps fun _ => .pure
  | none =>
    refine .bind status_works fun _ => .bind ensure_keeps fun _ => .bind now_works fun _ =>
      .bind ?_ fun _ => .bind ensure_keeps fun _ =>
      .bind (onSite_works (journal_works nofun nofun)) fun _ => .bind row_keeps fun _ => .pure
    cases deadlineNs with
    | none => exact .pure
    | some deadline => exact ensure_keeps

theorem prepareDispatch_works {admission : OperationAdmission} {provider : String} :
    (prepareDispatch admission provider).Works δ :=
  .bind requireOpen_works fun _ => self_works fun _ named => by
    subst named
    exact .bind ensure_keeps fun _ => .bind ensure_keeps fun _ => .bind now_works fun _ =>
      .bind row_keeps fun _ =>
      .ite (.bind (onSite_works (journal_works nofun nofun)) fun _ => .raise)
        (.bind (onSite_works (journal_works nofun nofun)) fun _ => .bind row_keeps fun _ => .pure)

theorem checkDispatchPermit_works {permit : DispatchPermit} : (checkDispatchPermit permit).Works δ :=
  .bind requireOpen_works fun _ => self_works fun _ _ => .bind ensure_keeps fun _ =>
    .bind ensure_keeps fun _ => .bind now_works fun _ => .bind operationRow_works fun _ =>
    .bind present_keeps fun _ => .bind ensure_keeps fun _ => .bind row_keeps fun _ =>
    .bind ensure_keeps fun _ => .pure

theorem revokeDispatches_works : revokeDispatches.Works δ :=
  .bind requireOpen_works fun _ =>
    .bind (assign_works (fun _ => ⟨rfl, rfl, rfl, rfl, rfl, rfl, fun _ => rfl⟩)
      fun _ => ⟨rfl, rfl, rfl⟩) fun _ => self_works fun _ named => by
    subst named
    exact .bind reading_works fun _ => onSite_works (journal_works nofun nofun)

theorem confirmOperation_works {canonicalDigest : Json → String} {permit : DispatchPermit}
    {result : ProviderResult} : (confirmOperation canonicalDigest permit result).Works δ :=
  .bind requireOpen_works fun _ => self_works fun _ named => by
    subst named
    exact .bind ensure_keeps fun _ => .bind now_works fun _ =>
      .bind (onSite_works HostAuthority.recordProviderResult_works) fun _ => .pure

theorem recoverySnapshot_works : recoverySnapshot.Works δ := by
  refine .bind requireOpen_works fun _ => self_works fun _ named => ?_
  subst named
  refine .bind (onSite_works query_works) fun state => ?_
  cases state with
  | error message => exact .raise
  | ok found => exact .pure

theorem requireRecoverySnapshot_works {snapshot : RecoverySnapshot} {grant : Option ParentGrant} :
    (requireRecoverySnapshot snapshot grant).Works δ :=
  .bind requireOpen_works fun _ => self_works fun _ _ =>
    .bind (onSite_works HostAuthority.requireParentGrant_works) fun _ => .bind ensure_keeps fun _ =>
    .bind requiresReconciliation_works fun _ => .bind ensure_keeps fun _ =>
    .bind recoverySnapshot_works fun _ => ensure_keeps

theorem requireNativeRecoveryLease_works {borrowed : NativeRecoveryLease} :
    (requireNativeRecoveryLease borrowed).Works δ :=
  self_works fun _ _ => .bind ensure_keeps fun _ => .bind requireRecoverySnapshot_works fun _ =>
    ensure_keeps

theorem returnNativeRecoveryLease_works : returnNativeRecoveryLease.Works δ :=
  assign_works (fun _ => ⟨rfl, rfl, rfl, rfl, rfl, rfl, id⟩) fun _ => ⟨rfl, rfl, rfl⟩

theorem borrowNativeRecoveryLease_works {snapshot : RecoverySnapshot} {grant : Option ParentGrant} :
    (borrowNativeRecoveryLease snapshot grant).Works δ :=
  .bind requireRecoverySnapshot_works fun _ => self_works fun _ named => by
    subst named
    exact .bind ensure_keeps fun _ => .bind (onSite_works borrowDescriptor_works) fun _ =>
      .bind (onSite_works HostAuthority.requireParentGrant_works) fun _ =>
      .bind (onSite_works (journal_works nofun nofun)) fun _ =>
      .bind (assign_works (fun _ => ⟨rfl, rfl, rfl, rfl, rfl, rfl, fun _ => rfl⟩)
        fun _ => ⟨rfl, rfl, rfl⟩) fun _ => .bind recoverySnapshot_works fun _ =>
      .bind (assign_works (fun _ => ⟨rfl, rfl, rfl, rfl, rfl, rfl, id⟩)
        fun _ => ⟨rfl, rfl, rfl⟩) fun _ =>
      .bind (.rescue requireNativeRecoveryLease_works fun _ =>
        .bind returnNativeRecoveryLease_works fun _ => .raise) fun _ => .pure

theorem checkDispatchPermit_keeps {permit : DispatchPermit} : (checkDispatchPermit permit).Keeps :=
  Method.Works.keeps fun _ => checkDispatchPermit_works

theorem bindNativeHandshake_keeps {permit : DispatchPermit} {protocol helper : Int}
    {helperIncarnation provider native clock : String} {timeMs : Int} :
    (bindNativeHandshake permit protocol helper helperIncarnation provider native clock
      timeMs).Keeps :=
  .bind checkDispatchPermit_keeps fun _ => .bind ensure_keeps fun _ => .bind ensure_keeps fun _ =>
    .bind ensure_keeps fun _ => .bind ensure_keeps fun _ => .bind ensure_keeps fun _ =>
    .bind self_keeps fun _ => .bind present_keeps fun _ => .bind checkDispatchPermit_keeps fun _ =>
    .bind (assign_keeps fun _ => ⟨rfl, rfl, rfl, rfl, rfl, rfl, id⟩) fun _ => .pure

theorem confirmNativeCleanup_keeps {canonicalDigest : Json → String} {permit : DispatchPermit} :
    (confirmNativeCleanup canonicalDigest permit).Keeps :=
  .bind (Method.Works.keeps fun _ => requireOpen_works) fun _ => .bind self_keeps fun _ =>
    .bind ensure_keeps fun _ => .bind ensure_keeps fun _ =>
    .bind (Method.Works.keeps fun _ => operationRow_works) fun _ => .bind present_keeps fun _ =>
    .bind ensure_keeps fun _ => .bind (Method.Works.keeps fun _ => status_works) fun _ =>
    .bind ensure_keeps fun _ => assign_keeps fun _ => ⟨rfl, rfl, rfl, rfl, rfl, rfl, id⟩

end DeviceAuthority

end Works

end Reproof.Live.Authority

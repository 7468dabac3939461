import Reproof.Live.Authority.Permits

/-! What a handle knows of its native helper: a handshake, a confirmed cleanup and the close that
needs one. -/

namespace Reproof.Live.StateStore

open Library

theorem Later.finished {s t : StateStore} (later : s.Later t) {o : Operation}
    (mem : o ∈ s.operations) (ended : ¬ o.status.Unfinished) : o ∈ t.operations := by
  refine later.invariant (P := fun s => o ∈ s.operations) (fun s c mem => ?_) mem
  have row : o ∈ (s.shard o.deviceFingerprint).operations := Table.mem_select.mpr ⟨mem, rfl⟩
  exact (Table.mem_select.mp ((shard_step s _ c).finished (shard_distinct s _) row ended)).1

/-- A device with an operation in flight is not clean. -/
theorem not_clean_of_uncertain {s : StateStore} {δ : String} {o : Operation}
    (owns : (s.shard δ).Owns) (mem : o ∈ s.operations) (device : o.deviceFingerprint = δ)
    (uncertain : o.status = .uncertain) : ¬ s.Clean δ := by
  intro clean
  have row : o ∈ (s.shard δ).operations := Table.mem_select.mpr ⟨mem, device⟩
  unfold Shard.Owns at owns
  split at owns
  · rw [owns] at row
    exact absurd row List.not_mem_nil
  · rename_i d stored
    have held := owns.inFlight o row uncertain
    cases held.symm.trans (clean d stored)

end Reproof.Live.StateStore

namespace Reproof.Live.Authority

open Library StateStore
open Prog (Guarantees)

variable {s t u : Session}

theorem Session.Working.refl (s : Session) : s.Working s :=
  ⟨refl_of Session.Keeps s, id, rfl, rfl, rfl⟩

theorem Session.Working.trans (h : s.Working t) (h' : t.Working u) : s.Working u :=
  ⟨trans_of Session.Keeps h.keeps h'.keeps, h.held ∘ h'.held, h.marks.trans h'.marks⟩

/-- What a handshake that returned has done. -/
structure Session.Binds (s : Session) (permit : DispatchPermit) (t : Session) : Prop where
  keeps : s.Keeps t
  unclosed : s.self.closed = false
  attached : t.self.nativeHelperAttached = true
  unconfirmed : t.self.nativeCleanupConfirmed = false
  released : t.self.released = s.self.released
  uncertain : ∃ o ∈ t.site.store.operations, o.operationId = permit.operationId ∧
    o.status = .uncertain

/-- What a confirmation that returned has done. -/
structure Session.Confirms (canonicalDigest : Json → String) (s : Session) (permit : DispatchPermit)
    (t : Session) : Prop where
  keeps : s.Keeps t
  unclosed : s.self.closed = false
  confirmed : t.self.nativeCleanupConfirmed = true
  attached : t.self.nativeHelperAttached = s.self.nativeHelperAttached
  released : t.self.released = s.self.released
  payload : permit.payloadDigest = canonicalDigest DeviceAuthority.cleanupPayload
  succeeded : ∃ o ∈ t.site.store.operations, o.operationId = permit.operationId ∧
    o.status = .succeeded

/-- Where a reconciliation may have left a session. -/
def Session.Resets (s t : Session) : Prop :=
  s.Working t ∨
    s.self.closed = false ∧ t.self.closed = false ∧
      t.self.generation = s.self.generation + 1 ∧ t.self.nativeHelperAttached = false ∧
      t.self.nativeCleanupConfirmed = false ∧ t.self.released = s.self.released

/-- The marks after the journal part of a close. -/
structure Session.Marking (s t : Session) : Prop where
  marks : s.self.SameMarks t.self
  held : s.self.nativeHelperAttached = true → s.self.nativeCleanupConfirmed = false →
    t.Clean → s.Clean

/-- What a close does to a handle that is not closed yet, as far as its helper goes. -/
structure Session.Shuts (s t : Session) : Prop where
  later : s.site.store.Later t.site.store
  fingerprint : t.self.deviceFingerprint = s.self.deviceFingerprint
  generation : t.self.generation = s.self.generation
  attached : t.self.nativeHelperAttached = s.self.nativeHelperAttached
  confirmed : t.self.nativeCleanupConfirmed = s.self.nativeCleanupConfirmed
  held : s.self.nativeHelperAttached = true → s.self.nativeCleanupConfirmed = false →
    t.Clean → s.Clean

theorem Session.Winding.shuts (winding : s.Winding t) (marking : s.Marking t) : s.Shuts t :=
  ⟨winding.keeps.site.later, winding.keeps.fingerprint, winding.keeps.generation,
    marking.marks.attached, marking.marks.confirmed, marking.held⟩

namespace DeviceAuthority

variable {canonicalDigest : Json → String} {permit : DispatchPermit}

theorem wp_bindNativeHandshake {protocol helper : Int}
    {helperIncarnation provider native clockId : String} {timeMs : Int} :
    (bindNativeHandshake permit protocol helper helperIncarnation provider native clockId
      timeMs).wp (fun _ t => s.Binds permit t) (fun _ t => s.Working t) (fun t => s.Working t) s := by
  have checks : ∀ s : Session, (checkDispatchPermit permit).wp
      (fun now t => s.Checks permit now t ∧ s.Working t) (fun _ t => s.Working t)
      (fun t => s.Working t) s := fun s =>
    Prog.wp_mono (Prog.wp_and returns_checkDispatchPermit
        (checkDispatchPermit_works s : (checkDispatchPermit permit).wp _ _ _ s))
      (fun _ _ h => ⟨h.1, h.2 rfl⟩) (fun _ _ h => h.2 rfl) fun _ h => h.2 rfl
  unfold bindNativeHandshake
  rw [Prog.wp_bind]
  refine Prog.wp_mono (checks s) ?_ (fun _ _ h => h) fun _ h => h
  rintro _ t ⟨_, first⟩
  simp only [Prog.wp_bind, wp_ensure, identifier, integer, self, Prog.wp_read, Prog.wp_pure,
    wp_present, first, implies_true, and_true]
  rintro - - - - - _ -
  refine Prog.wp_mono (checks t) ?_ (fun _ _ => first.trans) fun _ => first.trans
  rintro _ u ⟨found, second⟩
  rw [wp_assign]
  have both := first.trans second
  obtain ⟨site, authority, fingerprint, generation, issuer, leased, closed, revoked⟩ := both.keeps
  exact ⟨⟨site, authority, fingerprint, generation, issuer, leased, closed, revoked⟩,
    first.keeps.closed ▸ found.closed, rfl, rfl, both.marks.released, found.operation⟩

theorem wp_confirmNativeCleanup : (confirmNativeCleanup canonicalDigest permit).wp
    (fun _ t => s.Confirms canonicalDigest permit t) (fun _ t => s.Working t)
    (fun t => s.Working t) s := by
  have start := Session.Working.refl s
  unfold confirmNativeCleanup
  rw [Prog.wp_bind]
  refine wp_requireOpen (fun live => ?_) fun _ _ => start
  unfold self operationRow self
  simp only [Prog.wp_bind, Prog.wp_read, Prog.wp_pure, wp_ensure, wp_onSite, start, implies_true,
    and_true]
  rintro - ⟨-, -, -, -, -, payload⟩
  apply wp_query
  intro others foreign
  have found : s.Working { s with site := s.site.after others } :=
    ⟨⟨s.site.keeps_after others, rfl, rfl, rfl, rfl, rfl, rfl, id⟩, (Clean.foreigners foreign).mp,
      rfl, rfl, rfl⟩
  refine ⟨?_, found⟩
  simp only [wp_present, found, implies_true, and_true]
  rintro o stored ⟨-, -, succeeded⟩
  obtain ⟨mem, named⟩ := operation_eq_some.mp stored
  have working : ∀ u : Session, status.wp (fun _ t => u.Working t) (fun _ t => u.Working t)
      (fun t => u.Working t) u := fun u =>
    Prog.wp_mono (status_works u) (fun _ _ h => h rfl) (fun _ _ h => h rfl) fun _ h => h rfl
  refine Prog.wp_mono (working _) (fun _ t later => ?_) (fun _ _ => found.trans) fun _ => found.trans
  have both := found.trans later
  refine ⟨fun _ => ?_, fun _ => both⟩
  rw [wp_assign]
  obtain ⟨site, authority, fingerprint, generation, issuer, leased, closed, revoked⟩ := both.keeps
  have kept := later.keeps.site.later.finished mem (by simp [succeeded])
  exact ⟨⟨site, authority, fingerprint, generation, issuer, leased, closed, revoked⟩, live.closed, rfl,
    both.marks.attached, both.marks.released, payload, o, kept, named, succeeded⟩

theorem wp_reconcile_resets {reconciliation : TrustedReconciliation}
    {parentGrant : Option ParentGrant} {cleanupPending : Bool} :
    (reconcile canonicalDigest reconciliation parentGrant cleanupPending).wp
      (fun _ t => s.Resets t) (fun _ t => s.Resets t) (fun t => s.Resets t) s := by
  have refused : ∀ others, (∀ c ∈ others, c.Foreign s.self.deviceFingerprint) →
      s.Resets { s with site := s.site.after others } := fun others foreign =>
    .inl ⟨⟨s.site.keeps_after others, rfl, rfl, rfl, rfl, rfl, rfl, id⟩, (Clean.foreigners foreign).mp,
      rfl, rfl, rfl⟩
  have early : s.Resets s := refused [] (by simp)
  unfold reconcile
  rw [Prog.wp_bind]
  refine wp_requireOpen (fun live => ?_) fun _ _ => early
  unfold self
  simp only [Prog.wp_bind, Prog.wp_read, Prog.wp_pure, wp_ensure, wp_onSite, early, implies_true,
    and_true]
  rintro - ⟨-, named, prior⟩ - -
  apply wp_requireParentGrant _ fun _ => early
  intro now
  simp only [wp_row, early, implies_true, and_true]
  rintro grant -
  apply wp_journal
  intro others foreign
  refine ⟨fun _ => refused others foreign, refused others foreign, fun device store done => ?_⟩
  obtain ⟨-, d, rfl, generation⟩ := reconcileDevice_reply done
  replace generation : d.generation = s.self.generation + 1 := generation.trans (by rw [← prior]; rfl)
  have later : s.site.store.Later store := Site.after_later.trans (Later.exec done)
  have unmoved : s.Resets { s with site := { s.site.after others with store } } := by
    refine .inl ⟨⟨⟨later, rfl, rfl⟩, rfl, rfl, rfl, rfl, rfl, rfl, id⟩, fun clean => ?_, rfl, rfl, rfl⟩
    have committed : (s.site.after others).store.apply (.reconcileDevice reconciliation.values
        reconciliation.dispositionValues s.self.authority.hostIncarnation
        reconciliation.freshHelperIncarnation grant.toGrantValues now cleanupPending) = store := by
      simp only [StateStore.apply, done]
    have clean : store.Clean s.self.deviceFingerprint := clean
    rw [← committed] at clean
    refine (Clean.foreigners foreign).mp (Clean.of_apply ?_ ?_ clean)
    · exact fun _ _ _ h => by cases h
    · exact fun _ _ _ _ _ _ h => by cases h
  have moved : ∀ marker, s.Resets ⟨⟨store, marker, s.site.locked⟩, { s.self with
      generation := d.generation, helperIncarnation := d.helperIncarnation
      parentGrant := some grant, dispatchRevoked := cleanupPending, nativeHelperAttached := false
      nativeCleanupConfirmed := false }⟩ := fun marker =>
    .inr ⟨live.closed, live.closed, generation, rfl, rfl, rfl⟩
  refine ⟨⟨?_, by simp⟩, unmoved, unmoved⟩
  rintro _ ⟨⟩
  apply wp_markAuthority
  · exact moved _
  · exact ⟨moved _, moved _⟩
  · exact ⟨moved _, moved _⟩

section Close

/-- What happens on the site leaves the handle as it is. -/
theorem wp_onSite_self {α : Type} {p : Effect α} {a : DeviceAuthority} (h : s.self = a) :
    (onSite p).wp (fun _ t => t.self = a) (fun _ t => t.self = a) (fun t => t.self = a) s := by
  rw [wp_onSite]
  exact Prog.wp_mono (Prog.returns_any p s.site) (fun _ _ _ => h) (fun _ _ _ => h) fun _ _ => h

theorem wp_deviceRow_self {a : DeviceAuthority} (h : s.self = a) :
    deviceRow.wp (fun _ t => t.self = a) (fun _ t => t.self = a) (fun t => t.self = a) s :=
  wp_onSite_self h

/-- The journal part of a close does not make the device of an unconfirmed helper clean. -/
theorem wp_closeJournal_marking {nowNs : Option Int} : (closeJournal nowNs).wp
    (fun _ t => s.Marking t) (fun _ t => s.Marking t) (fun t => s.Marking t) s := by
  unfold closeJournal
  rw [Prog.wp_bind]
  change Prog.wp _ _ _ (if _ then _ else _) s
  split
  · have works : Method.Works s.self.deviceFingerprint (do
        assign fun self => { self with dispatchRevoked := true }
        onSite (journal s.self.deviceFingerprint (.revokeDispatches s.self.deviceFingerprint
          s.self.generation s.self.authority.hostIncarnation nowNs))
        let row ← deviceRow
        return row.any (·.status = .released)) :=
      .bind (assign_works (fun _ => ⟨rfl, rfl, rfl, rfl, rfl, rfl, fun _ => rfl⟩)
        fun _ => ⟨rfl, rfl, rfl⟩) fun _ => .bind (onSite_works (journal_works nofun nofun)) fun _ =>
        .bind deviceRow_works fun _ => .pure
    have marking : ∀ t, s.Works s.self.deviceFingerprint t → s.Marking t := fun t h =>
      ⟨(h rfl).marks, fun _ _ => (h rfl).held⟩
    exact Prog.wp_mono (works s) (fun _ => marking) (fun _ => marking) marking
  · rename_i settled
    have marking : ∀ t : Session, t.self = s.self → s.Marking t := fun t same =>
      ⟨same ▸ ⟨rfl, rfl, rfl⟩, fun attached unconfirmed => absurd ⟨attached, by simp [unconfirmed]⟩ settled⟩
    have row : ∀ t : Session, t.self = s.self → Prog.wp (fun (_ : Bool) t => s.Marking t)
        (fun _ t => s.Marking t) (fun t => s.Marking t)
        (do
          let row ← deviceRow
          return row.any (·.status = .released)) t := fun t same => by
      rw [Prog.wp_bind]
      exact Prog.wp_mono (wp_deviceRow_self same) (fun _ => marking) (fun _ => marking) marking
    cases nowNs with
    | none => exact row s rfl
    | some now =>
      rw [Prog.wp_bind]
      exact Prog.wp_mono (wp_onSite_self rfl) (fun _ => row) (fun _ => marking) marking

theorem wp_closeLease_shuts {released : Bool} (winding : s.Winding t) (marking : s.Marking t)
    (clean : released = true → t.Clean) :
    (closeLease released).wp
      (fun released u => s.Shuts u ∧ u.self.closed = true ∧ u.self.released = released ∧
        (released = true → u.Clean))
      (fun _ u => s.Shuts u ∧ u.self.closed = s.self.closed ∧ u.self.released = s.self.released)
      (fun u => s.Shuts u ∧ u.self.closed = s.self.closed ∧ u.self.released = s.self.released) t := by
  obtain ⟨later, fingerprint, generation, attached, confirmed, held⟩ := winding.shuts marking
  have marked : ∀ marker, s.Shuts { t with site := { t.site with marker } } := fun marker =>
    ⟨later, fingerprint, generation, attached, confirmed, held⟩
  have kept := And.intro winding.keeps.closed marking.marks.released
  unfold closeLease self
  simp only [Prog.wp_bind, Prog.wp_read, Prog.wp_pure, Prog.wp_rescue, wp_onSite]
  apply wp_markAuthority
  · exact ⟨⟨later, fingerprint, generation, attached, confirmed, held⟩, rfl, rfl, clean⟩
  · exact ⟨⟨winding.shuts marking, kept⟩, marked _, kept⟩
  · exact ⟨⟨winding.shuts marking, kept⟩, marked _, kept⟩

theorem wp_close_shuts (unclosed : s.self.closed = false) : close.wp
    (fun released t => s.Shuts t ∧ t.self.closed = true ∧ t.self.released = released ∧
      (released = true → t.Clean))
    (fun _ t => s.Shuts t ∧ t.self.closed = s.self.closed ∧ t.self.released = s.self.released)
    (fun t => s.Shuts t ∧ t.self.closed = s.self.closed ∧ t.self.released = s.self.released) s := by
  have start : s.Winding s ∧ s.Marking s :=
    ⟨⟨refl_of Session.Keeps s, id⟩, ⟨rfl, rfl, rfl⟩, fun _ _ => id⟩
  have unfinished : ∀ t, s.Winding t ∧ s.Marking t →
      s.Shuts t ∧ t.self.closed = s.self.closed ∧ t.self.released = s.self.released := fun t h =>
    ⟨h.1.shuts h.2, h.1.keeps.closed, h.2.marks.released⟩
  unfold close
  rw [Prog.wp_bind]
  change Prog.wp _ _ _ (if _ then _ else _) s
  rw [if_neg (by simp [unclosed]), Prog.wp_bind]
  apply wp_reading _ (unfinished s start)
  intro nowNs
  rw [Prog.wp_bind, Prog.wp_rescue]
  refine Prog.wp_mono (Prog.wp_and wp_closeJournal wp_closeJournal_marking)
    (fun _ t h => wp_closeLease_shuts h.1.1 h.2 h.1.2) (fun e t h => ?_) unfinished
  cases e with
  | contract message => exact wp_closeLease_shuts h.1 h.2 nofun
  | other => exact unfinished t h

end Close

end DeviceAuthority

end Reproof.Live.Authority

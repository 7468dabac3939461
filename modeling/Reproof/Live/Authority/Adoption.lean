import Reproof.Live.Authority.Frame
import Reproof.Live.StateStore.Quarantine

/-! A device adopted after a restart, and what a late provider result does to it. -/

namespace Reproof.Live.StateStore

open Library

/-- The call records a new terminal result with the bindings of the operation that the journal
holds in flight on the device `δ`. -/
def Call.Settles (s : StateStore) (δ : String) : Call → Prop
  | .acknowledgeResult receiptId _ operationId generation host provider status _ _ =>
    s.operationReceipts.find? (·.receiptId = receiptId) = none ∧
    (s.operationReceipts.select (·.operationId = operationId)).length < maxReceiptsPerOperation ∧
    status.terminal.isSome ∧
    ∃ o ∈ s.operation operationId, o.deviceFingerprint = δ ∧
      currentReceipt o (s.device δ) generation host provider
  | _ => False

instance (s : StateStore) (δ : String) : DecidablePred (Call.Settles s δ)
  | .acknowledgeResult .. => inferInstanceAs (Decidable (_ ∧ _))
  | .claimDevice .. | .renewDevice .. | .admitOperation .. | .expireQueuedOperation .. | .quarantineClock ..
  | .revokeDispatches .. | .fenceNativeRecovery .. | .prepareDispatch .. | .reconcileDevice ..
  | .finishReconciliationCleanup .. | .releaseDevice .. => instDecidableFalse

variable {s s' : StateStore} {δ : String}

/-- A result that settles nothing on the device leaves its part of the journal alone. -/
theorem acknowledgeResult_shard {receipt fingerprint operationId host provider digest : String}
    {generation now : Int} {status : ReceiptStatus} {r : Option OperationReceipt}
    (h : s.acknowledgeResult receipt fingerprint operationId generation host provider status digest
      now = .ok (r, s'))
    (late : ¬ Call.Settles s δ (.acknowledgeResult receipt fingerprint operationId generation host
      provider status digest now)) : s'.shard δ = s.shard δ := by
  rcases acknowledgeResult_cases h with same | ⟨o, mem, rfl, fresh, room, d, terminal, d', answer,
    hd, bound, _, shards⟩
  · exact same δ
  · rw [shards, if_neg]
    rintro rfl
    refine late ⟨fresh, room, by rw [answer]; rfl, o, operation_eq_some.mpr ⟨mem, rfl⟩, rfl, ?_⟩
    rw [hd]
    exact bound

/-- The device `δ` is stored as quarantined. -/
def Quarantined (s : StateStore) (δ : String) : Prop :=
  ∃ d ∈ s.device δ, d.status = .quarantined

instance (s : StateStore) (δ : String) : Decidable (s.Quarantined δ) :=
  inferInstanceAs (Decidable (∃ d ∈ s.device δ, d.status = .quarantined))

theorem claimDevice_quarantined {kind host helper : String} {grant : GrantValues} {now : Int}
    {r : Option Device} (h : s.claimDevice δ kind host helper grant now = .ok (r, s'))
    (held : ¬ s.Clean δ) : s'.Quarantined δ := by
  unfold claimDevice at h
  split at h
  · rename_i absent
    exact absurd (by simp [Clean, absent]) held
  · rename_i d hd
    have unreleased : d.status ≠ .released := fun released => held (by simp [Clean, hd, released])
    simp only [bind_eq_ok, require_eq_ok, if_neg unreleased] at h
    simp only [pure_eq_ok, Prod.mk.injEq] at h
    obtain ⟨_, _, t, ht, _, rfl⟩ := h
    have moved := shard_move (δ := δ) ht (fun _ h => h) (fun _ _ => rfl) hd
    rw [if_pos ⟨rfl, device_fingerprint hd⟩] at moved
    exact ⟨_, congrArg Shard.device moved, rfl⟩

theorem Quarantined.apply {c : Call} (h : s.Quarantined δ) (quiet : ¬ c.Reconciles δ)
    (late : ¬ c.Settles s δ) : (s.apply c).Quarantined δ := by
  obtain ⟨d, hd, held⟩ := h
  rcases (shard_step s δ c).held hd held with ⟨d', hd', _, _, rfl, -⟩ | ⟨reconciles, -⟩ | ⟨result, -⟩
  · exact ⟨_, hd', rfl⟩
  · exact absurd reconciles quiet
  · cases c with
    | acknowledgeResult receipt fingerprint operationId generation host provider status digest now =>
      have same : (s.apply (.acknowledgeResult receipt fingerprint operationId generation host provider
          status digest now)).shard δ = s.shard δ := by
        unfold StateStore.apply
        split
        · rename_i committed
          exact acknowledgeResult_shard committed late
        · rfl
      exact ⟨d, (congrArg Shard.device same).trans hd, held⟩
    | _ => simp [Call.device?] at result

end Reproof.Live.StateStore

namespace Reproof.Live.Authority

open Contracts Library StateStore

/-- What happens to an adopted device before its reconciliation: a host records a provider result,
or someone makes another transaction of the journal. -/
inductive Event
  | result (authority : HostAuthority) (operationId : String) (generation : Int)
      (hostIncarnation providerIncarnation : String) (result : ProviderResult)
      (reading : Except Failure Int) (fate : Fate)
  | call (c : Call)

variable (canonicalDigest : Json → String) (δ : String)

def Event.apply (site : Site) : Event → Site
  | .result authority operationId generation host provider reply reading fate =>
    ((authority.recordProviderResult canonicalDigest δ operationId generation host provider
      reply).run [{ reading }, { fate }] site).2.2
  | .call c => { site with store := site.store.apply c }

/-- The transaction of an event. -/
def Event.call? : Event → Option Call
  | .result authority operationId generation host provider reply reading _ =>
    if authority.closed = false ∧ isIdentifier operationId ∧
        (1 ≤ generation ∧ generation ≤ maxSequence) ∧ isIdentifier host ∧ isIdentifier provider then
      match reading with
      | .ok now => some (.acknowledgeResult reply.receiptId
          (canonicalDigest (HostAuthority.resultFields operationId generation host provider reply))
          operationId generation host provider reply.status reply.resultDigest now)
      | .error _ => none
    else none
  | .call c => some c

/-- No event of the run reconciles the device or settles the operation in flight on it. -/
def Quiet : Site → List Event → Prop
  | _, [] => True
  | site, e :: events =>
    (∀ c ∈ e.call? canonicalDigest, ¬ c.Reconciles δ ∧ ¬ c.Settles site.store δ) ∧
      Quiet (e.apply canonicalDigest δ site) events

instance decQuiet : (site : Site) → DecidablePred (Quiet canonicalDigest δ site)
  | _, [] => isTrue trivial
  | site, e :: events =>
    have := decQuiet (e.apply canonicalDigest δ site) events
    inferInstanceAs (Decidable ((∀ c ∈ e.call? canonicalDigest, _) ∧ _))

variable {canonicalDigest δ} {site : Site}

theorem run_journal {c : Call} {fate : Fate} {rest : List Answer} :
    (journal δ c).run ({ fate } :: rest) site =
      match site.store.exec c with
      | .error message => (.raised (.contract message), rest, site)
      | .ok (reply, store) =>
        match fate with
        | .done => (.done reply, rest, { site with store })
        | .failed applied => (.raised (.contract operationFailed), rest,
            if applied then { site with store } else site)
        | .crashed applied => (.crashed, rest, if applied then { site with store } else site) := by
  simp only [journal, interfere, Prog.run_bind, Prog.run_answer, Prog.run_modify, Prog.run_pure,
    Prog.run_read, List.filter_nil, List.foldl_nil]
  cases site.store.exec c with
  | error message => rfl
  | ok committed =>
    simp only [Prog.run_bind, Prog.run_write]
    cases fate <;> rfl

/-- A result whose checks pass makes its transaction, unless a write fails. -/
theorem run_recordProviderResult {authority : HostAuthority} {operationId host provider : String}
    {generation now : Int} {reply : ProviderResult} {fate : Fate}
    (opened : authority.closed = false) (operation : isIdentifier operationId)
    (range : 1 ≤ generation ∧ generation ≤ maxSequence) (hosted : isIdentifier host)
    (provided : isIdentifier provider) {c : Call}
    (hc : c = .acknowledgeResult reply.receiptId
      (canonicalDigest (HostAuthority.resultFields operationId generation host provider reply))
      operationId generation host provider reply.status reply.resultDigest now) :
    let after := ((authority.recordProviderResult canonicalDigest δ operationId generation host
      provider reply).run [{ reading := .ok now }, { fate }] site).2.2.store
    after = site.store ∨ after = site.store.apply c := by
  subst hc
  simp only [HostAuthority.recordProviderResult, HostAuthority.requireOpen, ensure, identifier,
    integer, sample, Prog.run_bind, Prog.run_ensure, opened, operation, range, hosted, provided,
    and_self, if_true, Prog.run_answer, Prog.ofExcept, Prog.run_done]
  rw [run_journal]
  unfold StateStore.apply
  cases site.store.exec _ with
  | error message => exact .inl rfl
  | ok committed =>
    obtain ⟨receipt, store⟩ := committed
    cases fate with
    | done =>
      right
      cases receipt <;> rfl
    | failed applied => cases applied <;> simp
    | crashed applied => cases applied <;> simp

theorem Event.store_apply (e : Event) :
    (e.apply canonicalDigest δ site).store = site.store ∨
    ∃ c ∈ e.call? canonicalDigest, (e.apply canonicalDigest δ site).store = site.store.apply c := by
  cases e with
  | call c => exact .inr ⟨c, rfl, rfl⟩
  | result authority operationId generation host provider reply reading fate =>
    simp only [Event.apply, Event.call?]
    by_cases valid : authority.closed = false ∧ isIdentifier operationId ∧
        (1 ≤ generation ∧ generation ≤ maxSequence) ∧ isIdentifier host ∧ isIdentifier provider
    · obtain ⟨opened, operation, range, hosted, provided⟩ := id valid
      rw [if_pos valid]
      cases reading with
      | error e =>
        left
        simp only [HostAuthority.recordProviderResult, HostAuthority.requireOpen, ensure, identifier,
          integer, sample, Prog.run_bind, Prog.run_ensure, opened, operation, range, hosted, provided,
          and_self, if_true, Prog.run_answer, Prog.ofExcept, Prog.run_raise]
      | ok now =>
        rcases run_recordProviderResult opened operation range hosted provided rfl with same | applied
        · exact .inl same
        · exact .inr ⟨_, rfl, applied⟩
    · left
      simp only [HostAuthority.recordProviderResult, HostAuthority.requireOpen, ensure, identifier,
        integer, Prog.run_bind, Prog.run_ensure]
      by_cases opened : authority.closed = false
      · by_cases operation : isIdentifier operationId
        · by_cases range : 1 ≤ generation ∧ generation ≤ maxSequence
          · by_cases hosted : isIdentifier host
            · have refused : ¬ isIdentifier provider :=
                fun provided => valid ⟨opened, operation, range, hosted, provided⟩
              simp [opened, operation, range, hosted, refused]
            · simp [opened, operation, range, hosted]
          · simp [opened, operation, range]
        · simp [opened, operation]
      · simp [opened]

theorem Quiet.quarantined {events : List Event} (quiet : Quiet canonicalDigest δ site events)
    (h : site.store.Quarantined δ) :
    (events.foldl (Event.apply canonicalDigest δ) site).store.Quarantined δ := by
  induction events generalizing site with
  | nil => exact h
  | cons e events ih =>
    obtain ⟨harmless, rest⟩ := quiet
    refine ih rest ?_
    rcases e.store_apply with same | ⟨c, hc, applied⟩
    · rw [same]
      exact h
    · obtain ⟨quiet, late⟩ := harmless c hc
      rw [applied]
      exact h.apply quiet late

/-- A claim of a device that was not released leaves it quarantined. -/
theorem Claim.quarantined {authority : HostAuthority} {deviceKind helperIncarnation : String}
    {issuer : Nat} {site t : Site} {handle : DeviceAuthority} {others : List Call}
    {grant : ParentGrant} {now : Int} {device : Device}
    (claim : Claim authority δ deviceKind helperIncarnation issuer site t handle others grant now
      device) (held : ¬ site.store.Clean δ) : t.store.Quarantined δ :=
  claimDevice_quarantined claim.claimed fun clean =>
    held ((Clean.foreigners claim.foreign).mp clean)

/-- The handle that a claim returns asks for reconciliation while its device is quarantined. -/
theorem run_requiresReconciliation {handle : DeviceAuthority} (opened : handle.authority.closed = false)
    (live : handle.closed = false ∧ handle.leased)
    (h : site.store.Quarantined handle.deviceFingerprint) :
    (DeviceAuthority.requiresReconciliation.run [] ⟨site, handle⟩).1 = .done true := by
  obtain ⟨d, hd, held⟩ := h
  have found : site.store.device handle.deviceFingerprint = some d := hd
  simp [DeviceAuthority.requiresReconciliation, DeviceAuthority.status, DeviceAuthority.requireOpen,
    DeviceAuthority.deviceRow, DeviceAuthority.self, HostAuthority.requireOpen, run_onSite, ensure,
    query, interfere, present, default, opened, live, found, held]

theorem adopted_quarantined (canonicalDigest : Json → String) {authority : HostAuthority} {sha256 : String → String}
    {deviceKind physicalId helperIncarnation : String} {parentGrant : Option ParentGrant}
    {displayAlias : Option String} {issuer : Nat} {answers rest : List Answer} {site site' : Site}
    {handle : DeviceAuthority}
    (claimed : (authority.claimDevice sha256 deviceKind physicalId helperIncarnation parentGrant
      displayAlias issuer).run answers site = (.done handle, rest, site'))
    (held : ¬ site.store.Clean handle.deviceFingerprint) (events : List Event)
    (quiet : Quiet canonicalDigest handle.deviceFingerprint site' events) :
    let after := events.foldl (Event.apply canonicalDigest handle.deviceFingerprint) site'
    after.store.Quarantined handle.deviceFingerprint ∧
      (DeviceAuthority.requiresReconciliation.run [] ⟨after, handle⟩).1 = .done true := by
  obtain ⟨others, grant, now, device, claim⟩ := claim_of_run claimed
  have named : handle.deviceFingerprint = sha256 (leaseIdentity deviceKind physicalId) := by
    rw [claim.handle]
  have after := quiet.quarantined (named ▸ claim.quarantined (named ▸ held))
  refine ⟨after, run_requiresReconciliation ?_ ?_ after⟩
  · rw [claim.handle]
    exact claim.opened
  · rw [claim.handle]
    exact ⟨rfl, rfl⟩

/-! A host dispatches an operation and dies; another host adopts its device. -/

section Example

def hostA : HostAuthority := ⟨"host_a", "root", 1, false⟩

def hostB : HostAuthority := ⟨"host_b", "root", 2, false⟩

/-- The site that the first host leaves with an operation in flight. -/
def crashedSite : Site :=
  match (hostA.claimDevice id "android" "device" "helper_a"
    (some ⟨⟨"grant_a", "project", "controller", 1, 100, "mapping"⟩, 1⟩) none 10).run [] ⟨.empty, none, false⟩ with
  | (.done handle, _, site) =>
    let dispatch : Method DispatchPermit := do
      let admission ← DeviceAuthority.admitOperation (fun _ => "digest") "operation"
        (String.ofList (List.replicate 64 'a')) "session" 1 none
      DeviceAuthority.prepareDispatch admission "provider_a"
    { (dispatch.run [] ⟨site, handle⟩).2.2.site with locked := false }
  | (_, _, site) => site

def adoption : Outcome Failure DeviceAuthority × List Answer × Site :=
  (hostB.claimDevice id "android" "device" "helper_b"
    (some ⟨⟨"grant_b", "project", "controller", 1, 100, "mapping"⟩, 2⟩) none 20).run [] crashedSite

def adoptedHandle : DeviceAuthority where
  authority := hostB
  deviceKind := "android"
  deviceFingerprint := "device"
  generation := 1
  helperIncarnation := "helper_a"
  parentGrant := none
  issuer := 20
  leased := true
  closed := false
  dispatchRevoked := false
  nativeHelperAttached := false
  nativeCleanupConfirmed := false
  released := false
  nativeRecoveryBorrows := false

/-- The result of the operation, recorded late and with the bindings of the dead host. -/
def lateResult (providerIncarnation : String) : Event :=
  .result hostB "operation" 1 "host_a" providerIncarnation ⟨"receipt", .succeeded, ""⟩ (.ok 1) .done

theorem adopted_owned :
    ¬ crashedSite.store.Clean "device" ∧ adoption.1 = .done adoptedHandle ∧
      adoption.2.2.store.Quarantined "device" ∧
      (((lateResult "provider_a").apply (fun _ => "digest") "device"
        adoption.2.2).store.device "device").map (·.status) = some .owned := by
  decide +kernel

theorem adopted_quarantined_late :
    ([lateResult "provider_b"].foldl (Event.apply (fun _ => "digest") "device")
      adoption.2.2).store.Quarantined "device" :=
  (adopted_quarantined (fun _ => "digest")
    (Prod.ext (by decide +kernel) rfl : adoption = (.done adoptedHandle, adoption.2.1, adoption.2.2))
    (by decide +kernel) [lateResult "provider_b"] (by decide +kernel)).1

end Example

end Reproof.Live.Authority

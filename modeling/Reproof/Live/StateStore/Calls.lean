import Mathlib.Data.List.Induction
import Reproof.Live.StateStore.Operations

/-! The calls a journal receives and the runs they make. -/

namespace Reproof.Live.StateStore

open Library

inductive Call
  | claimDevice (deviceFingerprint deviceKind hostIncarnation helperIncarnation : String)
      (grant : GrantValues) (nowNs : Int)
  | renewDevice (deviceFingerprint : String) (generation : Int) (hostIncarnation : String)
      (grant : GrantValues) (nowNs : Int)
  | admitOperation (operation : OperationValues)
  | expireQueuedOperation (deviceFingerprint : String) (generation : Int)
      (hostIncarnation operationId : String) (nowNs : Int)
  | quarantineClock (deviceFingerprint : String) (generation : Int) (hostIncarnation : String)
      (nowNs : Option Int)
  | revokeDispatches (deviceFingerprint : String) (generation : Int) (hostIncarnation : String)
      (nowNs : Option Int)
  | fenceNativeRecovery (deviceFingerprint : String) (generation : Int)
      (hostIncarnation helperIncarnation : String) (nowNs : Int)
  | prepareDispatch (operationId operationFingerprint deviceFingerprint : String)
      (generation : Int) (hostIncarnation providerIncarnation : String) (nowNs : Int)
  | acknowledgeResult (receiptId receiptFingerprint operationId : String) (generation : Int)
      (hostIncarnation providerIncarnation : String) (status : ReceiptStatus)
      (resultDigest : String) (observedNs : Int)
  | reconcileDevice (reconciliation : ReconciliationValues)
      (dispositions : Dict String Disposition) (hostIncarnation freshHelperIncarnation : String)
      (grant : GrantValues) (nowNs : Int) (cleanupPending : Bool)
  | finishReconciliationCleanup (reconciliationId reconciliationFingerprint deviceFingerprint : String)
      (generation : Int) (hostIncarnation helperIncarnation : String) (nowNs : Int)
  | releaseDevice (deviceFingerprint : String) (generation : Int) (hostIncarnation : String)
      (nowNs : Int)

/-- The device a call names, if it names one. -/
def Call.device? : Call → Option String
  | .claimDevice δ .. | .renewDevice δ .. | .expireQueuedOperation δ .. | .quarantineClock δ ..
  | .revokeDispatches δ .. | .fenceNativeRecovery δ .. | .prepareDispatch _ _ δ ..
  | .finishReconciliationCleanup _ _ δ .. | .releaseDevice δ .. => some δ
  | .admitOperation v => some v.deviceFingerprint
  | .reconcileDevice reconciliation .. => some reconciliation.deviceFingerprint
  | .acknowledgeResult .. => none

/-- A call that its maker needs no lease of the device `δ` for: a provider result, or one of
another device. -/
def Call.Foreign (δ : String) (c : Call) : Prop := c.device? ≠ some δ

instance (δ : String) : DecidablePred (Call.Foreign δ) :=
  fun c => inferInstanceAs (Decidable (c.device? ≠ some δ))

abbrev Call.Reply : Call → Type
  | .claimDevice .. => Option Device
  | .renewDevice .. => Except String (Option Device)
  | .admitOperation .. => Option Operation × Bool
  | .expireQueuedOperation .. => Unit
  | .quarantineClock .. => Unit
  | .revokeDispatches .. => Unit
  | .fenceNativeRecovery .. => Unit
  | .prepareDispatch .. => Option Operation
  | .acknowledgeResult .. => Option OperationReceipt
  | .reconcileDevice .. => Option Device
  | .finishReconciliationCleanup .. => Option Device
  | .releaseDevice .. => Unit

def exec (s : StateStore) : (c : Call) → Except String (c.Reply × StateStore)
  | .claimDevice device kind host helper grant now =>
    s.claimDevice device kind host helper grant now
  | .renewDevice device generation host grant now =>
    s.renewDevice device generation host grant now
  | .admitOperation operation => s.admitOperation operation
  | .expireQueuedOperation device generation host operation now =>
    s.expireQueuedOperation device generation host operation now
  | .quarantineClock device generation host now => s.quarantineClock device generation host now
  | .revokeDispatches device generation host now => s.revokeDispatches device generation host now
  | .fenceNativeRecovery device generation host helper now =>
    s.fenceNativeRecovery device generation host helper now
  | .prepareDispatch operation fingerprint device generation host provider now =>
    s.prepareDispatch operation fingerprint device generation host provider now
  | .acknowledgeResult receipt fingerprint operation generation host provider status digest now =>
    s.acknowledgeResult receipt fingerprint operation generation host provider status digest now
  | .reconcileDevice reconciliation dispositions host helper grant now cleanupPending =>
    s.reconcileDevice reconciliation dispositions host helper grant now cleanupPending
  | .finishReconciliationCleanup reconciliation fingerprint device generation host helper now =>
    s.finishReconciliationCleanup reconciliation fingerprint device generation host helper now
  | .releaseDevice device generation host now => s.releaseDevice device generation host now

/-- The journal after a call: what it committed, or the journal before when it rolled back. -/
def apply (s : StateStore) (c : Call) : StateStore :=
  match s.exec c with
  | .ok (_, committed) => committed
  | .error _ => s

/-- The operation row a call returns as accepted for dispatch. -/
def Call.acceptance : (c : Call) → c.Reply → Option Operation
  | .prepareDispatch .., operation => operation
  | _, _ => none

def accepted (s : StateStore) (c : Call) : Option Operation :=
  match s.exec c with
  | .ok (reply, _) => c.acceptance reply
  | .error _ => none

def run (calls : List Call) : StateStore := calls.foldl apply empty

/-- The journal `t` comes from `s` by calls. -/
def Later (s t : StateStore) : Prop := ∃ calls : List Call, calls.foldl apply s = t

theorem Later.refl (s : StateStore) : s.Later s := ⟨[], rfl⟩

theorem Later.trans {s t u : StateStore} (h : s.Later t) (h' : t.Later u) : s.Later u := by
  obtain ⟨calls, rfl⟩ := h
  obtain ⟨more, rfl⟩ := h'
  exact ⟨calls ++ more, List.foldl_append⟩

theorem Later.exec {s t : StateStore} {c : Call} {reply : c.Reply}
    (h : s.exec c = .ok (reply, t)) : s.Later t :=
  ⟨[c], by simp [apply, h]⟩

/-- What every call keeps holds of every later journal. -/
theorem Later.invariant {P : StateStore → Prop} {s t : StateStore} (h : s.Later t)
    (step : ∀ s c, P s → P (s.apply c)) (hs : P s) : P t := by
  obtain ⟨calls, rfl⟩ := h
  induction calls generalizing s with
  | nil => exact hs
  | cons c rest ih => exact ih (step s c hs)

/-- The operations accepted for dispatch, in the order of their acceptance. -/
def dispatchedFrom (s : StateStore) : List Call → List Operation
  | [] => []
  | c :: calls => (s.accepted c).toList ++ (s.apply c).dispatchedFrom calls

def dispatched (calls : List Call) : List Operation := empty.dispatchedFrom calls

theorem run_concat (calls : List Call) (c : Call) : run (calls ++ [c]) = (run calls).apply c := by
  simp [run]

theorem dispatchedFrom_concat (s : StateStore) (calls : List Call) (c : Call) :
    s.dispatchedFrom (calls ++ [c]) =
      s.dispatchedFrom calls ++ ((calls.foldl apply s).accepted c).toList := by
  induction calls generalizing s with
  | nil => simp [dispatchedFrom]
  | cons first rest ih => simp [dispatchedFrom, ih]

theorem dispatched_concat (calls : List Call) (c : Call) :
    dispatched (calls ++ [c]) = dispatched calls ++ ((run calls).accepted c).toList :=
  dispatchedFrom_concat empty calls c

/-- A property of the empty journal that every call keeps holds after every run. -/
theorem run_invariant {P : StateStore → Prop} (start : P empty)
    (step : ∀ s c, P s → P (s.apply c)) (calls : List Call) : P (run calls) := by
  induction calls using List.reverseRecOn with
  | nil => exact start
  | append_singleton calls c ih => rw [run_concat]; exact step _ c ih

end Reproof.Live.StateStore

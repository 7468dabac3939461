import Reproof.Contracts.Versions
import Reproof.Library.Prog
import Reproof.Live.StateStore.Calls

/-! The values of `authority.py` and their checks.  An `issuer` is the private token a value carries
of the object that made it. -/

namespace Reproof.Live.Authority

open Contracts Library StateStore

def protocolVersion : Int := 1
def nativeProtocolVersion : Int := 2
def helperVersion : Int := 2
def maxSequence : Int := 2 ^ 31 - 1
def maxNs : Int := 2 ^ 63 - 1

/-- `QUALIFIED_NATIVE_CLOCKS`: the rate error and the mapping uncertainty of a native clock. -/
def qualifiedNativeClocks (deviceKind nativeClockId : String) : Option (Int × Int) :=
  if (deviceKind, nativeClockId) = ("android", "android-elapsed-realtime") then some (1000, 1)
  else if (deviceKind, nativeClockId) = ("ios-physical", "ios-mach-continuous") then some (1000, 1)
  else if (deviceKind, nativeClockId) = ("ios-simulator", "ios-mach-continuous") then some (0, 1)
  else none

/-- `ContractError`, or any other exception. -/
inductive Failure
  | contract (message : String)
  | other
  deriving DecidableEq

/-- The values whose canonical encoding is digested. -/
inductive Json
  | str (value : String)
  | int (value : Int)
  | arr (items : List Json)
  | obj (fields : List (String × Json))

section Checks

variable {ω σ : Type}

/-- `_require(condition, message)`. -/
def ensure (p : Prop) [Decidable p] (message : String) : Prog Failure ω σ Unit :=
  Prog.ensure p (.contract message)

def identifier (value fieldName : String) : Prog Failure ω σ Unit :=
  ensure (isIdentifier value) ("Invalid " ++ fieldName)

def digest (value fieldName : String) : Prog Failure ω σ Unit :=
  ensure (isDigest value) ("Invalid " ++ fieldName)

def integer (value : Int) (fieldName : String) (low high : Int) : Prog Failure ω σ Unit :=
  ensure (low ≤ value ∧ value ≤ high) ("Invalid " ++ fieldName)

/-- The value of a lookup, or the text of the check that it is there. -/
def present {α : Type} (value : Option α) (message : String) : Prog Failure ω σ α :=
  match value with
  | some a => pure a
  | none => .raise (.contract message)

/-- A device may be shown without an alias. -/
def isAlias : Option String → Prop
  | none => True
  | some shown => 0 < shown.utf8ByteSize ∧ shown.utf8ByteSize ≤ 80 ∧
      ∀ c ∈ shown.toList, ¬ (c.toNat < 32 ∨ c.toNat = 127)

instance : DecidablePred isAlias
  | none => isTrue trivial
  | some _ => inferInstanceAs (Decidable (_ ∧ _))

def boundedAlias (value : Option String) : Prog Failure ω σ Unit :=
  ensure (isAlias value) "Invalid device display alias"

/-- The lease identity of a physical device. -/
def leaseIdentity (deviceKind physicalId : String) : String :=
  if deviceKind = "android" then physicalId
  else if deviceKind = "ios-physical" then "ios-device:" ++ physicalId
  else "ios-simulator:" ++ physicalId

/-- The lease identity and the fingerprint of a physical device. -/
def canonicalDevice (sha256 : String → String) (deviceKind physicalId : String) :
    Prog Failure ω σ (String × String) := do
  ensure (deviceKind = "android" ∨ deviceKind = "ios-physical" ∨ deviceKind = "ios-simulator")
    "Unsupported device kind"
  ensure (0 < physicalId.utf8ByteSize ∧ physicalId.utf8ByteSize ≤ 256 ∧
    ∀ c ∈ physicalId.toList, ¬ (c.toNat < 33 ∨ c.toNat = 127)) "Invalid physical device identity"
  let identity := leaseIdentity deviceKind physicalId
  return (identity, sha256 identity)

end Checks

structure ParentGrant extends GrantValues where
  issuer : Nat
  deriving DecidableEq

structure OperationAdmission where
  protocolVersion : Int
  operationId : String
  operationFingerprint : String
  payloadDigest : String
  projectId : String
  sessionId : String
  controllerId : String
  sequence : Int
  generation : Int
  hostIncarnation : String
  helperIncarnation : String
  deadlineNs : Int
  status : OperationStatus
  resultDigest : Option String
  isNew : Bool
  deviceFingerprint : String
  issuer : Nat
  deriving DecidableEq

structure DispatchPermit where
  protocolVersion : Int
  operationId : String
  operationFingerprint : String
  payloadDigest : String
  projectId : String
  sessionId : String
  controllerId : String
  sequence : Int
  ownershipGeneration : Int
  hostIncarnation : String
  helperIncarnation : String
  providerIncarnation : String
  deadlineNs : Int
  deviceFingerprint : String
  issuer : Nat
  deriving DecidableEq

structure NativeHandshake where
  protocolVersion : Int
  helperVersion : Int
  helperIncarnation : String
  providerIncarnation : String
  nativeIncarnation : String
  nativeClockId : String
  nativeTimeMs : Int
  hostReceivedNs : Int
  maxRateErrorPpm : Int
  mappingUncertaintyMs : Int
  deviceFingerprint : String
  issuer : Nat
  deriving DecidableEq

structure ProviderResult where
  receiptId : String
  status : ReceiptStatus
  resultDigest : String

structure RecoverySnapshot where
  deviceFingerprint : String
  priorGeneration : Int
  priorHostIncarnation : String
  priorHelperIncarnation : String
  quarantineReason : Option QuarantineReason
  operations : List (String × OperationStatus)
  issuer : Nat
  deriving DecidableEq

structure TrustedOperationDisposition where
  deviceFingerprint : String
  priorGeneration : Int
  operationId : String
  terminalStatus : TerminalDisposition
  resultDigest : String
  evidenceDigest : String
  dispositionFingerprint : String
  issuer : Nat

structure TrustedReconciliation where
  reconciliationId : String
  reconciliationFingerprint : String
  deviceFingerprint : String
  priorGeneration : Int
  priorHostIncarnation : String
  priorHelperIncarnation : String
  priorHelperExitDigest : String
  pointerCleanupDigest : String
  freshHelperIncarnation : String
  freshHandshakeDigest : String
  dispositions : List TrustedOperationDisposition
  issuer : Nat

section Wp

variable {ω σ α : Type} {R : Failure → σ → Prop} {C : σ → Prop} {s : σ}

@[simp] theorem wp_ensure {Q : Unit → σ → Prop} {p : Prop} [Decidable p] {message : String} :
    (ensure p message : Prog Failure ω σ Unit).wp Q R C s ↔
      (p → Q () s) ∧ (¬ p → R (.contract message) s) :=
  Prog.wp_ensure

@[simp] theorem wp_present {Q : α → σ → Prop} {value : Option α} {message : String} :
    (present value message : Prog Failure ω σ α).wp Q R C s ↔
      (∀ a, value = some a → Q a s) ∧ (value = none → R (.contract message) s) := by
  cases value <;> simp [present]

end Wp

end Reproof.Live.Authority

import Reproof.Live.Authority.Site

/-! `HostAuthority` and the handles it makes. -/

namespace Reproof.Live.Authority

open Library StateStore

/-- One process-local authority over the journal of its root. -/
structure HostAuthority where
  hostIncarnation : String
  authorityRootDigest : String
  issuer : Nat
  closed : Bool
  deriving DecidableEq

structure DeviceAuthority where
  authority : HostAuthority
  deviceKind : String
  deviceFingerprint : String
  generation : Int
  helperIncarnation : String
  parentGrant : Option ParentGrant
  issuer : Nat
  leased : Bool
  closed : Bool
  dispatchRevoked : Bool
  nativeHelperAttached : Bool
  nativeCleanupConfirmed : Bool
  released : Bool
  nativeRecoveryBorrows : Bool
  deriving DecidableEq

/-- The row a subscript needs. -/
def row {ω σ α : Type} : Option α → Prog Failure ω σ α
  | some a => pure a
  | none => .raise .other

@[simp] theorem wp_row {ω σ α : Type} {Q : α → σ → Prop} {R : Failure → σ → Prop} {C : σ → Prop}
    {s : σ} {value : Option α} :
    (row value : Prog Failure ω σ α).wp Q R C s ↔
      (∀ a, value = some a → Q a s) ∧ (value = none → R .other s) := by
  cases value <;> simp [row]

def receiptStatusText : ReceiptStatus → String
  | .succeeded => "succeeded"
  | .rejected => "rejected"
  | .unknown => "unknown"

namespace HostAuthority

variable (authority : HostAuthority)

def requireOpen : Effect Unit := ensure (authority.closed = false) "Host authority is closed"

/-- A grant with the issuer's token has the fields it was issued with; the reading is that of its
clock mapping. -/
def requireParentGrant (grant : Option ParentGrant) : Effect Int := do
  let grant ← present grant "Trusted parent grant required"
  ensure (grant.issuer = authority.issuer) "Trusted parent grant required"
  let now ← sample
  ensure (now < grant.localDeadlineNs) "Operation authority expired"
  return now

/-- `issuer` is the token of the new handle. -/
def claimDevice (sha256 : String → String) (deviceKind physicalId helperIncarnation : String)
    (parentGrant : Option ParentGrant) (displayAlias : Option String) (issuer : Nat) :
    Effect DeviceAuthority := do
  authority.requireOpen
  identifier helperIncarnation "helper incarnation"
  boundedAlias displayAlias
  let now ← authority.requireParentGrant parentGrant
  let grant ← row parentGrant
  let (_, deviceFingerprint) ← canonicalDevice sha256 deviceKind physicalId
  (Lease.enter (some authority.authorityRootDigest)).rescue fun
    | .contract message => .raise (.contract message)
    | .other => .raise (.contract "Canonical device lease unavailable")
  Prog.rescue
    (do
      markAuthority .rollbackBlocked authority.authorityRootDigest
      let device ← journal deviceFingerprint
        (.claimDevice deviceFingerprint deviceKind authority.hostIncarnation helperIncarnation
          grant.toGrantValues now)
      let device ← row device
      markAuthority (if device.status = .owned then .shared else .rollbackBlocked)
        authority.authorityRootDigest
      return { authority, deviceKind, deviceFingerprint, generation := device.generation
               helperIncarnation := device.helperIncarnation
               parentGrant := if device.status = .owned then some grant else none
               issuer, leased := true, closed := false, dispatchRevoked := false
               nativeHelperAttached := false, nativeCleanupConfirmed := false, released := false
               nativeRecoveryBorrows := false })
    fun e => do
      Lease.exit
      .raise e

/-- The fields a provider result is identified by. -/
def resultFields (operationId : String) (generation : Int)
    (hostIncarnation providerIncarnation : String) (result : ProviderResult) : Json :=
  .obj [("receiptId", .str result.receiptId), ("operationId", .str operationId),
    ("generation", .int generation), ("hostIncarnation", .str hostIncarnation),
    ("providerIncarnation", .str providerIncarnation),
    ("status", .str (receiptStatusText result.status)), ("resultDigest", .str result.resultDigest)]

/-- `δ` is the device whose site this is; the result may be of any operation. -/
def recordProviderResult (canonicalDigest : Json → String) (δ operationId : String)
    (generation : Int) (hostIncarnation providerIncarnation : String) (result : ProviderResult) :
    Effect OperationReceipt := do
  authority.requireOpen
  identifier operationId "operation identity"
  integer generation "ownership generation" 1 maxSequence
  identifier hostIncarnation "host incarnation"
  identifier providerIncarnation "provider incarnation"
  let now ← sample
  let receipt ← journal δ
    (.acknowledgeResult result.receiptId
      (canonicalDigest
        (resultFields operationId generation hostIncarnation providerIncarnation result))
      operationId generation hostIncarnation providerIncarnation result.status result.resultDigest
      now)
  row receipt

end HostAuthority

end Reproof.Live.Authority

import Mathlib.Tactic.Linarith
import Mathlib.Tactic.NormNum
import Mathlib.Tactic.Positivity
import Mathlib.Tactic.GCongr
import Reproof.Library.Clocks
import Reproof.Live.Authority.Permits

/-! The deadline that a native side is granted for a permit of its host. -/

namespace Reproof.Live.Authority

open Library StateStore

structure NativeGrant where
  protocolVersion : Int
  operationId : String
  operationFingerprint : String
  payloadDigest : String
  projectId : String
  sessionId : String
  controllerId : String
  sequence : Int
  ownershipGeneration : Int
  hostIncarnation : String
  helperIncarnation : String
  providerIncarnation : String
  nativeIncarnation : String
  nativeClockId : String
  nativeDeadlineMs : Int
  issuer : Nat
  deriving DecidableEq

/-- The milliseconds a native clock is sure to show when the permit ends. -/
def nativeDuration (permit : DispatchPermit) (handshake : NativeHandshake) : Int :=
  let remainingMs := max 0 (permit.deadlineNs - handshake.hostReceivedNs) / 1000000
  remainingMs * (1000000 - handshake.maxRateErrorPpm) / 1000000

namespace DeviceAuthority

def nativeGrant (permit : DispatchPermit) (handshake : NativeHandshake) : Method NativeGrant := do
  let _ ← checkDispatchPermit permit
  let self ← self
  ensure (handshake.issuer = self.issuer ∧
      handshake.deviceFingerprint = self.deviceFingerprint ∧
      handshake.protocolVersion = nativeProtocolVersion ∧
      handshake.helperVersion = helperVersion ∧
      handshake.helperIncarnation = permit.helperIncarnation ∧
      handshake.providerIncarnation = permit.providerIncarnation)
    "Trusted native handshake required"
  let nativeDuration := nativeDuration permit handshake
  ensure (handshake.mappingUncertaintyMs < nativeDuration) "Native clock mapping is too uncertain"
  let nativeDeadline := handshake.nativeTimeMs + nativeDuration - handshake.mappingUncertaintyMs
  integer nativeDeadline "native deadline" 0 (maxNs / 1000000)
  return {
    protocolVersion := nativeProtocolVersion, operationId := permit.operationId
    operationFingerprint := permit.operationFingerprint, payloadDigest := permit.payloadDigest
    projectId := permit.projectId, sessionId := permit.sessionId
    controllerId := permit.controllerId, sequence := permit.sequence
    ownershipGeneration := permit.ownershipGeneration, hostIncarnation := permit.hostIncarnation
    helperIncarnation := permit.helperIncarnation
    providerIncarnation := permit.providerIncarnation
    nativeIncarnation := handshake.nativeIncarnation, nativeClockId := handshake.nativeClockId
    nativeDeadlineMs := nativeDeadline, issuer := self.issuer }

end DeviceAuthority

/-- What a handshake knows of its clock. -/
structure NativeHandshake.Qualified (handshake : NativeHandshake) : Prop where
  rate : 0 ≤ handshake.maxRateErrorPpm
  slow : handshake.maxRateErrorPpm ≤ 1000000
  uncertainty : 0 ≤ handshake.mappingUncertaintyMs

theorem qualifiedNativeClocks_bounds {deviceKind nativeClockId : String} {rate uncertainty : Int}
    (found : qualifiedNativeClocks deviceKind nativeClockId = some (rate, uncertainty)) :
    0 ≤ rate ∧ rate ≤ 1000000 ∧ 0 ≤ uncertainty := by
  unfold qualifiedNativeClocks at found
  split at found
  · cases found
    decide
  · split at found
    · cases found
      decide
    · split at found <;> cases found
      decide

/-- The share of the host's time that the slowest admitted native clock shows, in milliseconds. -/
noncomputable def NativeHandshake.leastRate (handshake : NativeHandshake) : ℝ :=
  (1 - handshake.maxRateErrorPpm / 10 ^ 6) / 10 ^ 6

/-- A native clock, in milliseconds over the host's nanoseconds, that fits a handshake. -/
structure NativeHandshake.Fits (handshake : NativeHandshake) (clock : ℝ → ℝ) : Prop where
  monotone : Monotone clock
  received : handshake.nativeTimeMs - handshake.mappingUncertaintyMs ≤ clock handshake.hostReceivedNs
  rate : RunsAtLeast handshake.leastRate handshake.hostReceivedNs clock

section Duration

variable {permit : DispatchPermit} {handshake : NativeHandshake}

/-- A positive duration ends before the deadline on the slowest clock. -/
theorem nativeDuration_bound (qualified : handshake.Qualified)
    (positive : 0 < nativeDuration permit handshake) :
    handshake.hostReceivedNs ≤ permit.deadlineNs ∧
      nativeDuration permit handshake * 1000000 * 1000000 ≤
        (1000000 - handshake.maxRateErrorPpm) * (permit.deadlineNs - handshake.hostReceivedNs) := by
  unfold nativeDuration at positive ⊢
  simp only at positive ⊢
  have slow : 0 ≤ 1000000 - handshake.maxRateErrorPpm := Int.sub_nonneg.mpr qualified.slow
  generalize 1000000 - handshake.maxRateErrorPpm = rate at positive slow ⊢
  have ahead : 0 < permit.deadlineNs - handshake.hostReceivedNs := by
    by_contra passed
    rw [max_eq_left (by omega)] at positive
    simp at positive
  rw [max_eq_right ahead.le] at positive ⊢
  refine ⟨by omega, ?_⟩
  generalize permit.deadlineNs - handshake.hostReceivedNs = left
  have remaining : left / 1000000 * 1000000 ≤ left := Int.ediv_mul_le left (by decide)
  have duration : left / 1000000 * rate / 1000000 * 1000000 ≤ left / 1000000 * rate :=
    Int.ediv_mul_le _ (by decide)
  calc left / 1000000 * rate / 1000000 * 1000000 * 1000000
      ≤ left / 1000000 * rate * 1000000 := Int.mul_le_mul_of_nonneg_right duration (by decide)
    _ = rate * (left / 1000000 * 1000000) := by ring
    _ ≤ rate * left := Int.mul_le_mul_of_nonneg_left remaining slow

/-- A clock that fits the handshake shows the duration, less the uncertainty, at the deadline. -/
theorem NativeHandshake.Fits.deadline {clock : ℝ → ℝ} (fits : handshake.Fits clock)
    (qualified : handshake.Qualified) (positive : 0 < nativeDuration permit handshake) :
    (nativeDuration permit handshake : ℝ) ≤
        handshake.leastRate * (permit.deadlineNs - handshake.hostReceivedNs) ∧
      handshake.nativeTimeMs + handshake.leastRate *
          (permit.deadlineNs - handshake.hostReceivedNs) - handshake.mappingUncertaintyMs ≤
        clock permit.deadlineNs := by
  obtain ⟨ahead, bound⟩ := nativeDuration_bound qualified positive
  have passed := fits.rate handshake.hostReceivedNs permit.deadlineNs le_rfl (by exact_mod_cast ahead)
  have received := fits.received
  constructor
  · have real : (nativeDuration permit handshake : ℝ) * 1000000 * 1000000 ≤
        (1000000 - handshake.maxRateErrorPpm) *
          (permit.deadlineNs - handshake.hostReceivedNs) := by
      exact_mod_cast bound
    unfold NativeHandshake.leastRate
    linarith
  · linarith

end Duration

namespace DeviceAuthority

variable {s : Session} {permit : DispatchPermit} {handshake : NativeHandshake}

theorem returns_bindNativeHandshake {protocol helper : Int}
    {helperIncarnation provider native clockId : String} {timeMs : Int} :
    (bindNativeHandshake permit protocol helper helperIncarnation provider native clockId
      timeMs).Returns (fun handshake _ => handshake.Qualified) s := by
  unfold bindNativeHandshake
  refine .last fun _ _ => .last fun _ _ => .last fun _ _ => .last fun _ _ => .last fun _ _ =>
    .last fun _ _ => .last fun self t => ?_
  rw [Prog.Returns, Prog.wp_bind, wp_present]
  refine ⟨fun bounds found => ?_, fun _ => trivial⟩
  obtain ⟨rate, slow, uncertainty⟩ := qualifiedNativeClocks_bounds found
  exact Prog.Returns.last fun _ _ => Prog.Returns.last fun _ _ => ⟨rate, slow, uncertainty⟩

theorem returns_nativeGrant :
    (nativeGrant permit handshake).Returns (fun grant _ =>
      handshake.mappingUncertaintyMs < nativeDuration permit handshake ∧
        grant.nativeDeadlineMs = handshake.nativeTimeMs + nativeDuration permit handshake -
          handshake.mappingUncertaintyMs) s := by
  unfold nativeGrant
  refine .last fun _ _ => .last fun self t => .last fun _ _ => ?_
  rw [Prog.Returns, Prog.wp_bind, wp_ensure]
  exact ⟨fun certain => Prog.Returns.last fun _ _ => ⟨certain, rfl⟩, fun _ => trivial⟩

/-- A native side that acts only before its granted deadline acts before that of the host. -/
theorem nativeGrant_within {bound : Session} {first : DispatchPermit} {protocol helper : Int}
    {helperIncarnation provider native clockId : String} {timeMs : Int}
    {answers rest answers' rest' : List Answer} {t t' : Session} {grant : NativeGrant}
    (handshaken : (bindNativeHandshake first protocol helper helperIncarnation provider native clockId
      timeMs).run answers bound = (.done handshake, rest, t))
    (granted : (nativeGrant permit handshake).run answers' s = (.done grant, rest', t'))
    {clock : ℝ → ℝ} (fits : handshake.Fits clock) :
    grant.nativeDeadlineMs ≤ clock permit.deadlineNs ∧
      (∀ time, clock time < grant.nativeDeadlineMs → time < permit.deadlineNs) ∧
      grant.nativeDeadlineMs ≤ handshake.nativeTimeMs + handshake.leastRate *
        (permit.deadlineNs - handshake.hostReceivedNs) - handshake.mappingUncertaintyMs := by
  have qualified := Prog.done_wp returns_bindNativeHandshake handshaken
  obtain ⟨certain, deadline⟩ := Prog.done_wp returns_nativeGrant granted
  obtain ⟨duration, shown⟩ :=
    fits.deadline qualified (Int.lt_of_le_of_lt qualified.uncertainty certain)
  have value : (grant.nativeDeadlineMs : ℝ) = handshake.nativeTimeMs +
      nativeDuration permit handshake - handshake.mappingUncertaintyMs := by
    exact_mod_cast deadline
  have within : (grant.nativeDeadlineMs : ℝ) ≤ clock permit.deadlineNs := by linarith
  refine ⟨within, fun time before => ?_, by linarith⟩
  by_contra late
  exact absurd (fits.monotone (not_lt.mp late)) (by linarith)

/-! A helper answers in the host's first nanosecond; its clock keeps the host's pace. -/

section Example

def startup : World :=
  World.run id (fun _ => "digest") "android" "device"
    [.claim ⟨"host_a", "root", 1, false⟩ "helper_a"
      (some ⟨⟨"grant_a", "project", "controller", 1, 10000000000, "mapping"⟩, 1⟩) none [],
    .call 0 (.admitOperation "operation" World.payload "session" 1 none) [],
    .call 0 (.prepareDispatch { World.admission with deadlineNs := 10000000000 } "provider_a") []]

def startupHandle : DeviceAuthority :=
  { World.dispatchedHandle with
    parentGrant := some ⟨⟨"grant_a", "project", "controller", 1, 10000000000, "mapping"⟩, 1⟩ }

def startupPermit : DispatchPermit := { World.issuedPermit with deadlineNs := 10000000000 }

def startupHandshake : NativeHandshake where
  protocolVersion := 2
  helperVersion := 2
  helperIncarnation := "helper_a"
  providerIncarnation := "provider_a"
  nativeIncarnation := "native_a"
  nativeClockId := "android-elapsed-realtime"
  nativeTimeMs := 1000
  hostReceivedNs := 0
  maxRateErrorPpm := 1000
  mappingUncertaintyMs := 1
  deviceFingerprint := "device"
  issuer := 0

def handshaking : Outcome Failure NativeHandshake × List Answer × Session :=
  (bindNativeHandshake startupPermit 2 2 "helper_a" "provider_a" "native_a"
    "android-elapsed-realtime" 1000).run [] (startup.session startupHandle)

def granting : Outcome Failure NativeGrant × List Answer × Session :=
  (nativeGrant startupPermit startupHandshake).run [] handshaking.2.2

def startupGrant : NativeGrant where
  protocolVersion := 2
  operationId := "operation"
  operationFingerprint := "digest"
  payloadDigest := World.payload
  projectId := "project"
  sessionId := "session"
  controllerId := "controller"
  sequence := 1
  ownershipGeneration := 1
  hostIncarnation := "host_a"
  helperIncarnation := "helper_a"
  providerIncarnation := "provider_a"
  nativeIncarnation := "native_a"
  nativeClockId := "android-elapsed-realtime"
  nativeDeadlineMs := 10989
  issuer := 0

theorem startupHandshake_fits : startupHandshake.Fits fun time => 1000 + time / 10 ^ 6 where
  monotone x y before := by
    have : x / 10 ^ 6 ≤ y / 10 ^ 6 := by gcongr
    linarith
  received := by norm_num [startupHandshake]
  rate x y _ before := by
    norm_num [NativeHandshake.leastRate, startupHandshake]
    linarith

theorem nativeGrant_within_startup :
    handshaking.1 = .done startupHandshake ∧ granting.1 = .done startupGrant ∧
      ((10989 : Int) : ℝ) ≤ 1000 + ((10000000000 : Int) : ℝ) / 10 ^ 6 :=
  have bound : handshaking.1 = .done startupHandshake := by decide +kernel
  have granted : granting.1 = .done startupGrant := by decide +kernel
  ⟨bound, granted, (nativeGrant_within
    (Prod.ext bound rfl :
      handshaking = (.done startupHandshake, handshaking.2.1, handshaking.2.2))
    (Prod.ext granted rfl : granting = (.done startupGrant, granting.2.1, granting.2.2))
    startupHandshake_fits).1⟩

end Example

end DeviceAuthority

end Reproof.Live.Authority

import Mathlib.Tactic.Linarith
import Mathlib.Tactic.NormNum
import Mathlib.Tactic.Positivity
import Reproof.Contracts.Versions
import Reproof.Library.Checked
import Reproof.Library.Clocks
import Reproof.Live.RecordingSession.Clock

/-! How a host translates the clock of another party, and when the translation encloses it. -/

namespace Reproof.Live.ClockSync

open Contracts Library
open RecordingSession (maxNs maxUncertaintyNs)

def maxDriftPpm : Int := 1000000

def identifier (value fieldName : String) : Except String Unit :=
  require (isIdentifier value) ("Invalid " ++ fieldName)

def integer (value : Int) (fieldName : String) (low high : Int) : Except String Unit :=
  require (low ≤ value ∧ value ≤ high) ("Invalid " ++ fieldName)

structure ClockReading where
  clockId : String
  bootDigest : String
  nanoseconds : Int
  uncertaintyNs : Int
  named : isIdentifier clockId
  booted : isDigest bootDigest
  within : (0 ≤ nanoseconds ∧ nanoseconds ≤ maxNs) ∧ 0 ≤ uncertaintyNs ∧
    uncertaintyNs ≤ maxUncertaintyNs
  deriving DecidableEq

structure TrustedClockSample where
  reading : ClockReading
  issuer : Nat
  deriving DecidableEq

structure ClockInterval where
  earliestNs : Int
  latestNs : Int
  within : 0 ≤ earliestNs ∧ earliestNs ≤ latestNs ∧ latestNs ≤ maxNs
  deriving DecidableEq

inductive Measurement
  | peerExchange | hostProbe
  deriving DecidableEq

/-- The fields a mapping is identified by. -/
structure MappingFields where
  coordinatorClockId : String
  hostClockId : String
  hostBootDigest : String
  coordinatorSendNs : Int
  coordinatorReceiveNs : Int
  hostReceiveNs : Int
  hostSendNs : Int
  offsetLowerNs : Int
  offsetUpperNs : Int
  maxDriftPpm : Int
  measurement : Measurement
  deriving DecidableEq

structure ClockMapping extends MappingFields where
  mappingId : String
  issuer : Nat
  deriving DecidableEq

namespace ClockMapping

/-- How far the clocks may have drifted, rounded up. -/
def drift (mapping : ClockMapping) (value : Int) : Int :=
  let horizon := max |value - mapping.coordinatorSendNs| |value - mapping.coordinatorReceiveNs|
  (horizon * mapping.maxDriftPpm + 999999) / 1000000

def translate (mapping : ClockMapping) (coordinatorNs : Int) : Except String ClockInterval := do
  integer coordinatorNs "coordinator clock value" 0 maxNs
  let lower := coordinatorNs + mapping.offsetLowerNs - mapping.drift coordinatorNs
  let upper := coordinatorNs + mapping.offsetUpperNs + mapping.drift coordinatorNs
  if within : 0 ≤ lower ∧ lower ≤ upper ∧ upper ≤ maxNs then .ok ⟨lower, upper, within⟩
  else .error "Clock translation is out of range"

end ClockMapping

structure ClockSynchronizer where
  issuer : Nat
  lastReading : Option ClockReading
  maxMappingUncertaintyNs : Int

/-- The arguments of `record_exchange`. -/
structure Exchange where
  coordinatorClockId : String
  coordinatorSendNs : Int
  hostReceived : TrustedClockSample
  hostSent : TrustedClockSample
  coordinatorReceiveNs : Int
  coordinatorUncertaintyNs : Int := 0
  maxDriftPpm : Int := 100

/-- The arguments of `record_probe`. -/
structure Probe where
  coordinatorClockId : String
  coordinatorNs : Int
  hostSent : TrustedClockSample
  hostReceived : TrustedClockSample
  coordinatorUncertaintyNs : Int := 0
  maxDriftPpm : Int := 100

namespace ClockSynchronizer

variable (sync : ClockSynchronizer) (fingerprint : MappingFields → String)

def recordExchange (e : Exchange) : Except String ClockMapping := do
  identifier e.coordinatorClockId "coordinator clock identity"
  integer e.coordinatorSendNs "coordinator send time" 0 maxNs
  integer e.coordinatorReceiveNs "coordinator receive time" 0 maxNs
  integer e.coordinatorUncertaintyNs "coordinator clock uncertainty" 0 maxUncertaintyNs
  integer e.maxDriftPpm "clock drift bound" 0 ClockSync.maxDriftPpm
  require (e.hostReceived.issuer = sync.issuer ∧ e.hostSent.issuer = sync.issuer)
    "Trusted local clock samples required"
  let first := e.hostReceived.reading
  let second := e.hostSent.reading
  require (e.coordinatorSendNs ≤ e.coordinatorReceiveNs ∧ first.clockId = second.clockId ∧
      first.bootDigest = second.bootDigest ∧ first.nanoseconds ≤ second.nanoseconds)
    "Clock exchange is inconsistent"
  let offsetLower := second.nanoseconds - second.uncertaintyNs -
    (e.coordinatorReceiveNs + e.coordinatorUncertaintyNs)
  let offsetUpper := first.nanoseconds + first.uncertaintyNs -
    (e.coordinatorSendNs - e.coordinatorUncertaintyNs)
  require (offsetLower ≤ offsetUpper) "Clock exchange is inconsistent"
  require (offsetUpper - offsetLower ≤ sync.maxMappingUncertaintyNs)
    "Clock mapping uncertainty is excessive"
  let fields : MappingFields := {
    coordinatorClockId := e.coordinatorClockId, hostClockId := first.clockId
    hostBootDigest := first.bootDigest, coordinatorSendNs := e.coordinatorSendNs
    coordinatorReceiveNs := e.coordinatorReceiveNs, hostReceiveNs := first.nanoseconds
    hostSendNs := second.nanoseconds, offsetLowerNs := offsetLower, offsetUpperNs := offsetUpper
    maxDriftPpm := e.maxDriftPpm, measurement := .peerExchange }
  return { fields with mappingId := fingerprint fields, issuer := sync.issuer }

def recordProbe (p : Probe) : Except String ClockMapping := do
  identifier p.coordinatorClockId "coordinator clock identity"
  integer p.coordinatorNs "coordinator clock value" 0 maxNs
  integer p.coordinatorUncertaintyNs "coordinator clock uncertainty" 0 maxUncertaintyNs
  integer p.maxDriftPpm "clock drift bound" 0 ClockSync.maxDriftPpm
  require (p.hostSent.issuer = sync.issuer ∧ p.hostReceived.issuer = sync.issuer)
    "Trusted local clock samples required"
  let first := p.hostSent.reading
  let last := p.hostReceived.reading
  require (first.clockId = last.clockId ∧ first.bootDigest = last.bootDigest ∧
      first.nanoseconds ≤ last.nanoseconds)
    "Clock probe is inconsistent"
  let lower := first.nanoseconds - first.uncertaintyNs - p.coordinatorNs -
    p.coordinatorUncertaintyNs
  let upper := last.nanoseconds + last.uncertaintyNs - p.coordinatorNs + p.coordinatorUncertaintyNs
  require (upper - lower ≤ sync.maxMappingUncertaintyNs) "Clock mapping uncertainty is excessive"
  let fields : MappingFields := {
    coordinatorClockId := p.coordinatorClockId, hostClockId := first.clockId
    hostBootDigest := first.bootDigest, coordinatorSendNs := p.coordinatorNs
    coordinatorReceiveNs := p.coordinatorNs, hostReceiveNs := last.nanoseconds
    hostSendNs := first.nanoseconds, offsetLowerNs := lower, offsetUpperNs := upper
    maxDriftPpm := p.maxDriftPpm, measurement := .hostProbe }
  return { fields with mappingId := fingerprint fields, issuer := sync.issuer }

end ClockSynchronizer

/-- What rounding up the drift over `elapsed` adds to it, in millionths. -/
def roundingSlack (maxDriftPpm elapsed : Int) : Int := -(elapsed * maxDriftPpm) % 1000000

/-- A host clock over the coordinator's, with the drift of the exchange. -/
structure Exchange.Fits (e : Exchange) (clock : ℝ → ℝ) : Prop where
  drifts : Drifts (e.maxDriftPpm / 10 ^ 6) clock
  sent : ∃ x : ℝ, |x - e.coordinatorSendNs| ≤ e.coordinatorUncertaintyNs ∧
    clock x ≤ e.hostReceived.reading.nanoseconds + e.hostReceived.reading.uncertaintyNs
  received : ∃ x : ℝ, |x - e.coordinatorReceiveNs| ≤ e.coordinatorUncertaintyNs ∧
    e.hostSent.reading.nanoseconds - e.hostSent.reading.uncertaintyNs ≤ clock x

/-- A host clock over the native one, with the drift of the probe. -/
structure Probe.Fits (p : Probe) (clock : ℝ → ℝ) : Prop where
  drifts : Drifts (p.maxDriftPpm / 10 ^ 6) clock
  read : ∃ x : ℝ, |x - p.coordinatorNs| ≤ p.coordinatorUncertaintyNs ∧
    p.hostSent.reading.nanoseconds - p.hostSent.reading.uncertaintyNs ≤ clock x ∧
    clock x ≤ p.hostReceived.reading.nanoseconds + p.hostReceived.reading.uncertaintyNs

/-- The clock shows a time of the interval at the value. -/
def ClockInterval.Encloses (interval : ClockInterval) (clock : ℝ → ℝ) (value : Int) : Prop :=
  interval.earliestNs ≤ clock value ∧ clock value ≤ interval.latestNs

namespace ClockMapping

/-- The mapping as a recording binds it. -/
def recorded (mapping : ClockMapping) : RecordingSession.Mapping where
  segment := mapping.issuer
  coordinatorSendNs := mapping.coordinatorSendNs
  coordinatorReceiveNs := mapping.coordinatorReceiveNs
  hostReceiveNs := mapping.hostReceiveNs
  hostSendNs := mapping.hostSendNs
  offsetLowerNs := mapping.offsetLowerNs
  offsetUpperNs := mapping.offsetUpperNs
  maxDriftPpm := mapping.maxDriftPpm

variable {mapping : ClockMapping} {v : Int} {interval : ClockInterval}

theorem recorded_drift : mapping.recorded.drift v = mapping.drift v := by
  unfold RecordingSession.Mapping.drift drift recorded
  simp only [Int.natCast_natAbs]

theorem recorded_translate :
    mapping.recorded.translate v =
      (mapping.translate v).toOption.map fun i => (i.earliestNs, i.latestNs) := by
  unfold RecordingSession.Mapping.translate translate integer require
  rw [recorded_drift]
  dsimp only [recorded, bind, Except.bind]
  by_cases valid : 0 ≤ v ∧ v ≤ maxNs
  · rw [if_pos valid]
    dsimp only
    split
    · rename_i both
      rw [dif_pos both.2]
      rfl
    · rename_i failed
      rw [dif_neg fun within => failed ⟨valid, within⟩]
      rfl
  · rw [if_neg valid, if_neg fun both => valid both.1]
    rfl

theorem translate_eq (translated : mapping.translate v = .ok interval) :
    interval.earliestNs = v + mapping.offsetLowerNs - mapping.drift v ∧
      interval.latestNs = v + mapping.offsetUpperNs + mapping.drift v := by
  unfold translate integer at translated
  simp only [bind_eq_ok, require_eq_ok] at translated
  obtain ⟨-, -, found⟩ := translated
  split at found
  · cases found
    exact ⟨rfl, rfl⟩
  · cases found

theorem drift_eq (ordered : mapping.coordinatorSendNs ≤ mapping.coordinatorReceiveNs)
    (later : mapping.coordinatorReceiveNs ≤ v) :
    mapping.drift v * 1000000 = (v - mapping.coordinatorSendNs) * mapping.maxDriftPpm +
      roundingSlack mapping.maxDriftPpm (v - mapping.coordinatorSendNs) := by
  unfold drift roundingSlack
  rw [abs_of_nonneg (by omega), abs_of_nonneg (by omega), max_eq_left (by omega)]
  dsimp only
  generalize (v - mapping.coordinatorSendNs) * mapping.maxDriftPpm = passed
  omega

/-- The drift covers the time since the earliest reading iff its rounding up does. -/
theorem drift_covers_iff {uncertainty : Int}
    (ordered : mapping.coordinatorSendNs ≤ mapping.coordinatorReceiveNs)
    (later : mapping.coordinatorReceiveNs ≤ v) :
    (mapping.maxDriftPpm / 10 ^ 6 : ℝ) * (v - mapping.coordinatorSendNs + uncertainty) ≤
        mapping.drift v ↔
      mapping.maxDriftPpm * uncertainty ≤
        roundingSlack mapping.maxDriftPpm (v - mapping.coordinatorSendNs) := by
  have rounded := drift_eq ordered later
  constructor
  · intro covers
    have scaled : (mapping.maxDriftPpm * (v - mapping.coordinatorSendNs + uncertainty) : ℝ) ≤
        mapping.drift v * 1000000 := by linarith
    have whole : mapping.maxDriftPpm * (v - mapping.coordinatorSendNs + uncertainty) ≤
        mapping.drift v * 1000000 := by exact_mod_cast scaled
    linarith
  · intro slack
    have whole : mapping.maxDriftPpm * (v - mapping.coordinatorSendNs + uncertainty) ≤
        mapping.drift v * 1000000 := by linarith
    have scaled : (mapping.maxDriftPpm * (v - mapping.coordinatorSendNs + uncertainty) : ℝ) ≤
        mapping.drift v * 1000000 := by exact_mod_cast whole
    linarith

/-- A mapping measured with this uncertainty: the host showed `least` or more when it answered and
`most` or less when it was asked. -/
structure Measured (mapping : ClockMapping) (uncertainty least most : Int) : Prop where
  lower : mapping.offsetLowerNs = least - (mapping.coordinatorReceiveNs + uncertainty)
  upper : mapping.offsetUpperNs = most - (mapping.coordinatorSendNs - uncertainty)
  rate : 0 ≤ mapping.maxDriftPpm
  uncertain : 0 ≤ uncertainty
  ordered : mapping.coordinatorSendNs ≤ mapping.coordinatorReceiveNs

namespace Measured

variable {uncertainty least most : Int} (measured : mapping.Measured uncertainty least most)
  (later : mapping.coordinatorReceiveNs ≤ v) (translated : mapping.translate v = .ok interval)

include measured

theorem rate_nonneg : (0 : ℝ) ≤ mapping.maxDriftPpm / 10 ^ 6 := by
  have : (0 : ℝ) ≤ mapping.maxDriftPpm := by exact_mod_cast measured.rate
  positivity

theorem fastest_ge (consistent : mapping.offsetLowerNs ≤ mapping.offsetUpperNs) :
    least ≤ fastest (mapping.maxDriftPpm / 10 ^ 6) most (mapping.coordinatorSendNs - uncertainty)
      (mapping.coordinatorReceiveNs + uncertainty) := by
  rw [measured.lower, measured.upper] at consistent
  have offsets : (least - (mapping.coordinatorReceiveNs + uncertainty) : ℝ) ≤
      most - (mapping.coordinatorSendNs - uncertainty) := by exact_mod_cast consistent
  have ordered : (mapping.coordinatorSendNs : ℝ) ≤ mapping.coordinatorReceiveNs := by
    exact_mod_cast measured.ordered
  have uncertain : (0 : ℝ) ≤ uncertainty := by exact_mod_cast measured.uncertain
  have gained : 0 ≤ (mapping.maxDriftPpm / 10 ^ 6 : ℝ) *
      (mapping.coordinatorReceiveNs + uncertainty - (mapping.coordinatorSendNs - uncertainty)) :=
    mul_nonneg measured.rate_nonneg (by linarith)
  unfold fastest
  linarith

include later translated

theorem encloses {clock : ℝ → ℝ} (drifts : Drifts (mapping.maxDriftPpm / 10 ^ 6) clock)
    (sent : ∃ x : ℝ, |x - mapping.coordinatorSendNs| ≤ uncertainty ∧ clock x ≤ most)
    (received : ∃ x : ℝ, |x - mapping.coordinatorReceiveNs| ≤ uncertainty ∧ least ≤ clock x)
    (slack : mapping.maxDriftPpm * uncertainty ≤
      roundingSlack mapping.maxDriftPpm (v - mapping.coordinatorSendNs)) :
    interval.Encloses clock v := by
  obtain ⟨earliest, latest⟩ := translate_eq translated
  obtain ⟨x, aboutSent, shown⟩ := sent
  obtain ⟨y, aboutReceived, answered⟩ := received
  have covers := (drift_covers_iff measured.ordered later).mpr slack
  have ordered : (mapping.coordinatorSendNs : ℝ) ≤ mapping.coordinatorReceiveNs := by
    exact_mod_cast measured.ordered
  have after : (mapping.coordinatorReceiveNs : ℝ) ≤ v := by exact_mod_cast later
  have below := drifts.le_of_read measured.rate_nonneg (ordered.trans after) aboutSent shown
  have above := drifts.ge_of_read measured.rate_nonneg ordered after aboutReceived answered
  unfold fastest at below
  rw [ClockInterval.Encloses, earliest, latest, measured.lower, measured.upper]
  push_cast
  constructor <;> linarith

/-- The fastest clock of the measurement is enclosed only by a drift that covers it. -/
theorem slack_of_encloses
    (encloses : interval.Encloses
      (fastest (mapping.maxDriftPpm / 10 ^ 6) most (mapping.coordinatorSendNs - uncertainty)) v) :
    mapping.maxDriftPpm * uncertainty ≤
      roundingSlack mapping.maxDriftPpm (v - mapping.coordinatorSendNs) := by
  refine (drift_covers_iff measured.ordered later).mp ?_
  have within := encloses.2
  rw [(translate_eq translated).2, measured.upper] at within
  unfold fastest at within
  push_cast at within
  linarith

end Measured

end ClockMapping

namespace ClockSynchronizer

variable {sync : ClockSynchronizer} {fingerprint : MappingFields → String} {mapping : ClockMapping}
  {e : Exchange} {p : Probe} {v : Int} {interval : ClockInterval}

theorem recordExchange_measured (recorded : sync.recordExchange fingerprint e = .ok mapping) :
    (mapping.coordinatorSendNs = e.coordinatorSendNs ∧
        mapping.coordinatorReceiveNs = e.coordinatorReceiveNs ∧
        mapping.maxDriftPpm = e.maxDriftPpm ∧ mapping.offsetLowerNs ≤ mapping.offsetUpperNs) ∧
      mapping.Measured e.coordinatorUncertaintyNs
        (e.hostSent.reading.nanoseconds - e.hostSent.reading.uncertaintyNs)
        (e.hostReceived.reading.nanoseconds + e.hostReceived.reading.uncertaintyNs) := by
  unfold recordExchange identifier integer at recorded
  simp only [bind_eq_ok, require_eq_ok, pure_eq_ok] at recorded
  obtain ⟨-, -, -, -, -, -, -, uncertain, -, drift, -, -, -, ordered, -, consistent, -, -, rfl⟩ :=
    recorded
  exact ⟨⟨rfl, rfl, rfl, consistent⟩, ⟨rfl, rfl, drift.1, uncertain.1, ordered.1⟩⟩

theorem recordProbe_measured (recorded : sync.recordProbe fingerprint p = .ok mapping) :
    (mapping.coordinatorSendNs = p.coordinatorNs ∧ mapping.coordinatorReceiveNs = p.coordinatorNs ∧
        mapping.maxDriftPpm = p.maxDriftPpm ∧
        p.hostSent.reading.nanoseconds ≤ p.hostReceived.reading.nanoseconds) ∧
      mapping.Measured p.coordinatorUncertaintyNs
        (p.hostSent.reading.nanoseconds - p.hostSent.reading.uncertaintyNs)
        (p.hostReceived.reading.nanoseconds + p.hostReceived.reading.uncertaintyNs) := by
  unfold recordProbe identifier integer at recorded
  simp only [bind_eq_ok, require_eq_ok, pure_eq_ok] at recorded
  obtain ⟨-, -, -, -, -, uncertain, -, drift, -, -, -, consistent, -, -, rfl⟩ := recorded
  refine ⟨⟨rfl, rfl, rfl, consistent.2.2⟩, ⟨?_, ?_, drift.1, uncertain.1, le_rfl⟩⟩
  · dsimp only
    omega
  · dsimp only
    omega

theorem exchange_encloses_iff (recorded : sync.recordExchange fingerprint e = .ok mapping)
    (later : e.coordinatorReceiveNs ≤ v) (translated : mapping.translate v = .ok interval) :
    (∀ clock, e.Fits clock → interval.Encloses clock v) ↔
      e.maxDriftPpm * e.coordinatorUncertaintyNs ≤
        roundingSlack e.maxDriftPpm (v - e.coordinatorSendNs) := by
  obtain ⟨⟨send, receive, rate, consistent⟩, measured⟩ := recordExchange_measured recorded
  have uncertain : (0 : ℝ) ≤ e.coordinatorUncertaintyNs := by exact_mod_cast measured.uncertain
  rw [← receive] at later
  rw [← send, ← rate]
  constructor
  · intro encloses
    refine measured.slack_of_encloses later translated (encloses _ ?_)
    constructor
    · rw [← rate]
      exact fastest_drifts measured.rate_nonneg
    · refine ⟨_, ?_, fastest_self.le.trans (by push_cast; rfl)⟩
      rw [send, sub_sub_cancel_left, abs_neg, abs_of_nonneg uncertain]
    · refine ⟨_, ?_, le_trans (by push_cast; rfl) (measured.fastest_ge consistent)⟩
      rw [receive, add_sub_cancel_left, abs_of_nonneg uncertain]
  · intro slack clock fits
    have drifts := fits.drifts
    have sent := fits.sent
    have received := fits.received
    rw [← rate] at drifts
    rw [← send] at sent
    rw [← receive] at received
    exact measured.encloses later translated drifts (by exact_mod_cast sent)
      (by exact_mod_cast received) slack

theorem probe_encloses_iff (recorded : sync.recordProbe fingerprint p = .ok mapping)
    (later : p.coordinatorNs ≤ v) (translated : mapping.translate v = .ok interval) :
    (∀ clock, p.Fits clock → interval.Encloses clock v) ↔
      p.maxDriftPpm * p.coordinatorUncertaintyNs ≤
        roundingSlack p.maxDriftPpm (v - p.coordinatorNs) := by
  obtain ⟨⟨send, receive, rate, consistent⟩, measured⟩ := recordProbe_measured recorded
  have uncertain : (0 : ℝ) ≤ p.coordinatorUncertaintyNs := by exact_mod_cast measured.uncertain
  rw [← receive] at later
  rw [← send, ← rate]
  constructor
  · intro encloses
    refine measured.slack_of_encloses later translated (encloses _ ?_)
    constructor
    · rw [← rate]
      exact fastest_drifts measured.rate_nonneg
    · refine ⟨_, ?_, le_trans ?_ fastest_self.ge, fastest_self.le.trans (by push_cast; rfl)⟩
      · rw [send, sub_sub_cancel_left, abs_neg, abs_of_nonneg uncertain]
      · have first := p.hostSent.reading.within.2.1
        have last := p.hostReceived.reading.within.2.1
        exact_mod_cast (by omega :
          p.hostSent.reading.nanoseconds - p.hostSent.reading.uncertaintyNs ≤
            p.hostReceived.reading.nanoseconds + p.hostReceived.reading.uncertaintyNs)
  · intro slack clock fits
    obtain ⟨x, about, least, most⟩ := fits.read
    have drifts := fits.drifts
    rw [← rate] at drifts
    refine measured.encloses later translated drifts ⟨x, ?_, by exact_mod_cast most⟩
      ⟨x, ?_, by exact_mod_cast least⟩ slack
    · rwa [send]
    · rwa [receive]

/-- A translation encloses every clock of its measurement exactly when the rounding up of the drift
makes up for the drift over the declared uncertainty. -/
theorem translate_encloses_iff (sync : ClockSynchronizer) (fingerprint : MappingFields → String)
    (mapping : ClockMapping) (v : Int) (interval : ClockInterval)
    (translated : mapping.translate v = .ok interval) :
    (∀ e : Exchange, sync.recordExchange fingerprint e = .ok mapping → e.coordinatorReceiveNs ≤ v →
      ((∀ clock, e.Fits clock → interval.Encloses clock v) ↔
        e.maxDriftPpm * e.coordinatorUncertaintyNs ≤
          roundingSlack e.maxDriftPpm (v - e.coordinatorSendNs))) ∧
    ∀ p : Probe, sync.recordProbe fingerprint p = .ok mapping → p.coordinatorNs ≤ v →
      ((∀ clock, p.Fits clock → interval.Encloses clock v) ↔
        p.maxDriftPpm * p.coordinatorUncertaintyNs ≤
          roundingSlack p.maxDriftPpm (v - p.coordinatorNs)) :=
  ⟨fun _ recorded later => exchange_encloses_iff recorded later translated,
    fun _ recorded later => probe_encloses_iff recorded later translated⟩

/-! A coordinator whose clock is uncertain by a tenth of a second, and a host that gains on it. -/

section Example

def hostReading : ClockReading where
  clockId := "clock-boottime"
  bootDigest := String.ofList (List.replicate 64 'd')
  nanoseconds := 900090000
  uncertaintyNs := 0
  named := by decide
  booted := by decide
  within := by decide

def uncertainExchange : Exchange where
  coordinatorClockId := "coordinator-clock"
  coordinatorSendNs := 1000000000
  hostReceived := ⟨hostReading, 0⟩
  hostSent := ⟨hostReading, 0⟩
  coordinatorReceiveNs := 1000000000
  coordinatorUncertaintyNs := 100000000

def exchangeMapping : ClockMapping where
  coordinatorClockId := "coordinator-clock"
  hostClockId := "clock-boottime"
  hostBootDigest := String.ofList (List.replicate 64 'd')
  coordinatorSendNs := 1000000000
  coordinatorReceiveNs := 1000000000
  hostReceiveNs := 900090000
  hostSendNs := 900090000
  offsetLowerNs := -199910000
  offsetUpperNs := 90000
  maxDriftPpm := 100
  measurement := .peerExchange
  mappingId := "mapping"
  issuer := 0

def translated : ClockInterval where
  earliestNs := 800090000
  latestNs := 1000090000
  within := by decide

def synchronizer : ClockSynchronizer := ⟨0, none, 250000000⟩

/-- A host that gains a hundred millionths, read when the coordinator was slowest. -/
theorem uncertainExchange_fits :
    uncertainExchange.Fits (fastest (100 / 10 ^ 6) 900090000 900000000) where
  drifts := fastest_drifts (by norm_num [uncertainExchange])
  sent := ⟨900000000, by norm_num [uncertainExchange], by norm_num [uncertainExchange, hostReading]⟩
  received :=
    ⟨900000000, by norm_num [uncertainExchange], by norm_num [uncertainExchange, hostReading]⟩

theorem uncertainExchange_not_enclosed :
    synchronizer.recordExchange (fun _ => "mapping") uncertainExchange = .ok exchangeMapping ∧
      exchangeMapping.translate 1000000000 = .ok translated ∧
      ∃ clock, uncertainExchange.Fits clock ∧ ¬ translated.Encloses clock 1000000000 := by
  refine ⟨by decide +kernel, by decide +kernel, _, uncertainExchange_fits, fun enclosed => ?_⟩
  have late := enclosed.2
  norm_num [translated, fastest] at late

/-- The same exchange with a certain coordinator. -/
def certainExchange : Exchange := { uncertainExchange with coordinatorUncertaintyNs := 0 }

def certainMapping : ClockMapping :=
  { exchangeMapping with offsetLowerNs := -99910000, offsetUpperNs := -99910000 }

def certainlyTranslated : ClockInterval where
  earliestNs := 1899990000
  latestNs := 1900190000
  within := by decide

theorem translate_encloses_iff_certain :
    certainMapping.translate 2000000000 = .ok certainlyTranslated ∧
      ∀ clock, certainExchange.Fits clock → certainlyTranslated.Encloses clock 2000000000 :=
  ⟨by decide +kernel, ((translate_encloses_iff synchronizer (fun _ => "mapping") certainMapping 2000000000
    certainlyTranslated (by decide +kernel)).1 certainExchange (by decide +kernel)
    (by decide)).mpr (by decide)⟩

end Example

end ClockSynchronizer

end Reproof.Live.ClockSync

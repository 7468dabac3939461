import Reproof.Contracts.Evidence

/-! The time of a recording: an anchor, and the stamps that host and provider clocks give against it. -/

namespace Reproof.Live.RecordingSession

open Contracts

/-- `MAX_NS`. -/
def maxNs : Int := 2 ^ 63 - 1

/-- `MAX_UNCERTAINTY_NS`. -/
def maxUncertaintyNs : Int := 60000000000

/-- `ClockReading`. -/
structure ClockReading where
  nanoseconds : Int
  uncertaintyNs : Int
  within : (0 ≤ nanoseconds ∧ nanoseconds ≤ maxNs) ∧ 0 ≤ uncertaintyNs ∧ uncertaintyNs ≤ maxUncertaintyNs

instance : DecidableEq ClockReading := fun a b =>
  decidable_of_iff (a.nanoseconds = b.nanoseconds ∧ a.uncertaintyNs = b.uncertaintyNs) (by cases a; cases b; simp)

/-- `TrustedClockSample`; the segment is its issuer, with the clock and the boot that it is of. -/
structure Sample where
  segment : Nat
  reading : ClockReading

/-- `RecordingTimeAnchor`. -/
structure Anchor where
  sample : Sample
  startedAtMs : Int
  within : 0 ≤ startedAtMs ∧ startedAtMs ≤ maxEpochMs

structure ProviderIdentity where
  clockId : String
  bootDigest : String
  nativeIncarnation : String
  deriving DecidableEq

/-- `RecordingStamp`. -/
structure Stamp where
  displayMs : Int
  offsetMs : Int
  earliestOffsetMs : Int
  latestOffsetMs : Int
  uncertaintyNs : Int
  provider : Option ProviderIdentity

/-- `ClockMapping`. -/
structure Mapping where
  segment : Nat
  coordinatorSendNs : Int
  coordinatorReceiveNs : Int
  hostReceiveNs : Int
  hostSendNs : Int
  offsetLowerNs : Int
  offsetUpperNs : Int
  maxDriftPpm : Int

/-- `ProviderClockBinding`. -/
structure Binding where
  mapping : Mapping
  identity : ProviderIdentity

/-- `_ceil_ms`. -/
def ceilMs (nanoseconds : Int) : Int := (nanoseconds + 999999) / 1000000

/-- How far the clocks may have drifted since the exchange. -/
def Mapping.drift (m : Mapping) (value : Int) : Int :=
  let horizon : Int := max (value - m.coordinatorSendNs).natAbs (value - m.coordinatorReceiveNs).natAbs
  (horizon * m.maxDriftPpm + 999999) / 1000000

/-- `ClockMapping.translate`. -/
def Mapping.translate (m : Mapping) (value : Int) : Option (Int × Int) :=
  let lower := value + m.offsetLowerNs - m.drift value
  let upper := value + m.offsetUpperNs + m.drift value
  if (0 ≤ value ∧ value ≤ maxNs) ∧ 0 ≤ lower ∧ lower ≤ upper ∧ upper ≤ maxNs then some (lower, upper) else none

namespace Anchor

variable (a : Anchor)

/-- `_current`. -/
def current (sample : Sample) : Option Sample :=
  if sample.segment = a.sample.segment ∧ a.sample.reading.nanoseconds ≤ sample.reading.nanoseconds then
    some sample
  else none

/-- `stamp`; there is none once the clock has no sample or is discontinuous. -/
def stamp (sample : Option Sample) : Option Stamp :=
  (sample.bind a.current).map fun sample =>
    let elapsed := sample.reading.nanoseconds - a.sample.reading.nanoseconds
    let offset := elapsed / 1000000
    let uncertainty := sample.reading.uncertaintyNs + a.sample.reading.uncertaintyNs
    { displayMs := a.startedAtMs + offset
      offsetMs := offset
      earliestOffsetMs := max 0 ((elapsed - uncertainty) / 1000000)
      latestOffsetMs := ceilMs (elapsed + uncertainty)
      uncertaintyNs := uncertainty
      provider := none }

/-- `stamp_provider` of a binding that still is the provider's; `accuracy` is
`max_mapping_uncertainty_ns`. -/
def stampProvider (accuracy : Int) (binding : Binding) (nanoseconds : Int) (captureStart : Option Int) :
    Option Stamp :=
  let start := captureStart.getD nanoseconds
  if (0 ≤ start ∧ start ≤ maxNs) ∧ 0 ≤ nanoseconds - start ∧ nanoseconds - start ≤ 10000000000 ∧
      binding.mapping.segment = a.sample.segment then
    match binding.mapping.translate nanoseconds, binding.mapping.translate start with
    | some last, some first =>
      let earliest := first.1 - a.sample.reading.nanoseconds - a.sample.reading.uncertaintyNs
      let latest := last.2 - a.sample.reading.nanoseconds + a.sample.reading.uncertaintyNs
      if max (last.2 - last.1) (first.2 - first.1) + 2 * a.sample.reading.uncertaintyNs ≤ accuracy ∧
          0 ≤ latest then
        let earliestMs := max 0 (earliest / 1000000)
        let latestMs := max earliestMs (ceilMs latest)
        let presentation := (earliestMs + latestMs) / 2
        some
          { displayMs := a.startedAtMs + presentation
            offsetMs := presentation
            earliestOffsetMs := earliestMs
            latestOffsetMs := latestMs
            uncertaintyNs := latest - earliest
            provider := some binding.identity }
      else none
    | _, _ => none
  else none

end Anchor

/-- What holds of every stamp against an anchor. -/
structure Stamp.Of (stamp : Stamp) (anchor : Anchor) : Prop where
  display : stamp.displayMs = anchor.startedAtMs + stamp.offsetMs
  offset : 0 ≤ stamp.offsetMs
  latest : stamp.offsetMs ≤ stamp.latestOffsetMs
  uncertainty : stamp.uncertaintyNs ≤ 4 * maxUncertaintyNs

theorem Anchor.of_current {a : Anchor} {sample taken : Sample} (current : a.current sample = some taken) :
    taken = sample ∧ a.sample.reading.nanoseconds ≤ sample.reading.nanoseconds := by
  unfold Anchor.current at current
  split at current
  · rename_i ok
    exact ⟨(Option.some.inj current).symm, ok.2⟩
  · cases current

theorem Anchor.stamp_of {a : Anchor} {sample : Option Sample} {stamp : Stamp}
    (stamped : a.stamp sample = some stamp) : stamp.Of a := by
  obtain ⟨taken, found, rfl⟩ := Option.map_eq_some_iff.mp stamped
  obtain ⟨sample, -, current⟩ := Option.bind_eq_some_iff.mp found
  obtain ⟨rfl, after⟩ := a.of_current current
  have here := a.sample.reading.within
  have there := taken.reading.within
  have limit : maxUncertaintyNs = 60000000000 := rfl
  constructor
  · rfl
  · dsimp only
    omega
  · dsimp only [ceilMs]
    omega
  · dsimp only
    omega

theorem Mapping.translate_eq {m : Mapping} {value : Int} {interval : Int × Int}
    (translated : m.translate value = some interval) :
    interval.1 = value + m.offsetLowerNs - m.drift value ∧ interval.2 = value + m.offsetUpperNs + m.drift value := by
  unfold Mapping.translate at translated
  dsimp only at translated
  split at translated
  · cases translated
    exact ⟨rfl, rfl⟩
  · cases translated

theorem Anchor.stampProvider_of {a : Anchor} {accuracy nanoseconds : Int} {binding : Binding}
    {captureStart : Option Int} {stamp : Stamp} (accurate : accuracy ≤ maxUncertaintyNs)
    (stamped : a.stampProvider accuracy binding nanoseconds captureStart = some stamp) : stamp.Of a := by
  unfold Anchor.stampProvider at stamped
  dsimp only at stamped
  split at stamped
  · rename_i started
    split at stamped
    · rename_i last first at_last at_first
      split at stamped
      · rename_i fine
        cases stamped
        have ends := binding.mapping.translate_eq at_last
        have starts := binding.mapping.translate_eq at_first
        have here := a.sample.reading.within
        have limit : maxUncertaintyNs = 60000000000 := rfl
        constructor
        · rfl
        · dsimp only [ceilMs]
          omega
        · dsimp only [ceilMs]
          omega
        · dsimp only
          omega
      · cases stamped
    · cases stamped
  · cases stamped

end Reproof.Live.RecordingSession

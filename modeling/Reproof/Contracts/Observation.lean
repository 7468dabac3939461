import Mathlib.Data.Real.Basic
import Mathlib.Tactic.Linarith
import Reproof.Contracts.Evidence

/-! What an observation covers, and what an assertion requires of it. -/

namespace Reproof.Contracts

open Library

inductive CoverageClass
  | snapshot | sampled | continuous
  deriving DecidableEq

inductive ObservationScope
  | root | window
  deriving DecidableEq

inductive Completeness
  | complete | incomplete | unsupported
  deriving DecidableEq

structure Interval where
  start : Int
  stop : Int
  deriving DecidableEq

structure CaptureLimits where
  nodes : Int
  bytes : Int
  depth : Int

structure Observation where
  schemaVersion : Int
  id : String
  providerIncarnation : String
  applicationId : String
  intervalMs : Interval
  clockUncertaintyMs : Int
  scope : ObservationScope
  targets : List String
  properties : List String
  errors : List String
  limits : CaptureLimits
  truncated : Bool
  completeness : Completeness
  coverage : CoverageClass
  samplesMs : Option (List Int)

/-- `value.get("samplesMs", [])`. -/
def Observation.samples (value : Observation) : List Int := value.samplesMs.getD []

/-- Identifiers of an observation, none of them twice. -/
def isMetadata (field : String) (maximum : Nat) (items : List String) : Except String Unit := do
  require (items.length ≤ maximum) ("Invalid " ++ field)
  each items (isId field)
  require items.Nodup "Duplicate observation metadata"

def validateObservation (value : Observation) : Except String Unit := do
  require (value.schemaVersion = 1) "Unsupported schemaVersion"
  isId "id" value.id
  isId "providerIncarnation" value.providerIncarnation
  isId "applicationId" value.applicationId
  isEpochMs "capture start" value.intervalMs.start
  isEpochMs "capture end" value.intervalMs.stop
  require (0 ≤ value.intervalMs.stop - value.intervalMs.start ∧
    value.intervalMs.stop - value.intervalMs.start ≤ 600000) "Invalid capture interval"
  isWithin "clock uncertainty" value.clockUncertaintyMs 0 60000
  isMetadata "targets" 256 value.targets
  isMetadata "properties" 128 value.properties
  isMetadata "errors" 64 value.errors
  isWithin "node limit" value.limits.nodes 1 100000
  isWithin "byte limit" value.limits.bytes 1 (50 * 1024 * 1024)
  isWithin "depth limit" value.limits.depth 1 512
  require (¬ value.truncated ∨ value.completeness ≠ .complete)
    "Truncated observation cannot be complete"
  require (value.samples.length ≤ 100000) "Invalid sample times"
  each value.samples fun sample => do
    isEpochMs "sample time" sample
    require (value.intervalMs.start ≤ sample ∧ sample ≤ value.intervalMs.stop)
      "Sample outside capture interval"
  -- equal to `sorted(set(samples))`
  require (value.samples.Pairwise (· < ·)) "Invalid sample order"
  require (value.coverage = .sampled ∨ value.samples = []) "Unexpected sample times"

structure CoverageRequirement where
  kind : CoverageClass
  windowMs : Interval
  maxUncertaintyMs : Int
  maxAgeMs : Int
  scope : ObservationScope
  properties : List String
  samplingIntervalMs : Option Int
  deriving DecidableEq

def isWindowTime (relative : Bool) (value : Int) : Except String Unit :=
  if relative then isWithin "relative observation window" value 0 600000
  else isEpochMs "observation window" value

def isSampling : CoverageClass → Option Int → Except String Unit
  | .sampled, some interval => isWithin "sampling interval" interval 100 60000
  | .sampled, none => .error "Invalid sampling interval"
  | _, none => .ok ()
  | _, some _ => .error "Unexpected sampling interval"

def validateCoverageRequirement (relative : Bool) (value : CoverageRequirement) :
    Except String Unit := do
  isWindowTime relative value.windowMs.start
  isWindowTime relative value.windowMs.stop
  require (0 ≤ value.windowMs.stop - value.windowMs.start ∧
    value.windowMs.stop - value.windowMs.start ≤ 60000) "Invalid observation window"
  isWithin "maximum uncertainty" value.maxUncertaintyMs 0 60000
  isWithin "maximum age" value.maxAgeMs 0 60000
  require (1 ≤ value.properties.length ∧ value.properties.length ≤ 128) "Invalid required properties"
  each value.properties (isId "required property")
  require value.properties.Nodup "Duplicate required property"
  isSampling value.kind value.samplingIntervalMs

/-- The window of a requirement, from the clock at which the oracle starts. -/
def bindCoverageRequirement (requirement : CoverageRequirement) (anchorMs : Int) :
    Except String CoverageRequirement := do
  validateCoverageRequirement true requirement
  isEpochMs "trusted observation anchor" anchorMs
  isEpochMs "bound observation time" (anchorMs + requirement.windowMs.start)
  isEpochMs "bound observation time" (anchorMs + requirement.windowMs.stop)
  pure {
    requirement with
    windowMs := ⟨anchorMs + requirement.windowMs.start, anchorMs + requirement.windowMs.stop⟩ }

inductive CoverageResult
  | unknown | covered
  deriving DecidableEq

/-- The samples around and in the window, or its ends where there are none. -/
def samplePoints (window : Interval) (samples : List Int) : List Int :=
  (samples.filter (· ≤ window.start)).getLast?.getD window.start ::
    (samples.filter (fun sample => window.start < sample ∧ sample < window.stop) ++
      [(samples.filter (window.stop ≤ ·)).head?.getD window.stop])

/-- The samples leave no gap in the window. -/
def SamplesCover (samples : List Int) (window : Interval) (uncertainty interval : Int) : Prop :=
  samples ≠ [] ∧
    (∃ sample ∈ samples, window.start - interval ≤ sample ∧ sample ≤ window.stop + interval) ∧
    ∀ gap ∈ (samplePoints window samples).zip (samplePoints window samples).tail,
      gap.2 - gap.1 + 2 * uncertainty ≤ interval

instance (samples : List Int) (window : Interval) (uncertainty interval : Int) :
    Decidable (SamplesCover samples window uncertainty interval) :=
  inferInstanceAs (Decidable (_ ∧ _ ∧ _))

def observationResult (obs : Observation) (req : CoverageRequirement) (evaluatedAtMs : Int) :
    Except String CoverageResult := do
  validateObservation obs
  validateCoverageRequirement false req
  isEpochMs "trusted evaluation time" evaluatedAtMs
  let uncertainty := obs.clockUncertaintyMs
  let start := obs.intervalMs.start
  let stop := obs.intervalMs.stop
  let low := req.windowMs.start
  let high := req.windowMs.stop
  let tolerance := req.maxUncertaintyMs
  pure <|
    if obs.truncated ∨ obs.errors ≠ [] ∨ obs.completeness ≠ .complete then .unknown
    else if obs.coverage ≠ req.kind ∨ obs.scope ≠ req.scope ∨ ¬ req.properties ⊆ obs.properties then
      .unknown
    else if uncertainty > req.maxUncertaintyMs ∨ evaluatedAtMs < stop + uncertainty then .unknown
    else if evaluatedAtMs - (stop - uncertainty) > req.maxAgeMs then .unknown
    else if req.kind = .snapshot ∧
        (start - uncertainty < low - tolerance ∨ stop + uncertainty > high + tolerance) then .unknown
    else if req.kind ≠ .snapshot ∧ (start + uncertainty > low ∨ stop - uncertainty < high) then .unknown
    else if req.kind = .sampled ∧
        ¬ SamplesCover obs.samples req.windowMs uncertainty (req.samplingIntervalMs.getD 0) then .unknown
    else .covered

section

variable {obs : Observation} {req bound : CoverageRequirement} {now anchor low high a : Int}
  {points samples : List Int} {x y : ℝ}

/-- What an observation that is covered is known to be. -/
structure Covers (obs : Observation) (req : CoverageRequirement) : Prop where
  kind : obs.coverage = req.kind
  ordered : obs.samples.Pairwise (· < ·)
  window : req.windowMs.start ≤ req.windowMs.stop
  certain : 0 ≤ obs.clockUncertaintyMs
  within : req.kind ≠ .snapshot → obs.intervalMs.start + obs.clockUncertaintyMs ≤ req.windowMs.start ∧
    req.windowMs.stop ≤ obs.intervalMs.stop - obs.clockUncertaintyMs
  sampled : req.kind = .sampled →
    SamplesCover obs.samples req.windowMs obs.clockUncertaintyMs (req.samplingIntervalMs.getD 0)

theorem covers_of_covered (covered : observationResult obs req now = .ok .covered) : Covers obs req := by
  simp only [observationResult, validateObservation, validateCoverageRequirement, isWithin, bind_eq_ok,
    require_eq_ok, pure_eq_ok] at covered
  obtain ⟨-, ⟨-, -, -, -, -, -, -, -, -, -, -, -, -, -, -, certain, -, -, -, -, -, -, -, -, -, -, -, -, -, -,
    -, -, -, -, -, ordered, -⟩, -, ⟨-, -, -, -, -, window, -⟩, -, -, result⟩ := covered
  split at result
  · cases result
  split at result
  · cases result
  rename_i matched
  split at result
  · cases result
  split at result
  · cases result
  split at result
  · cases result
  split at result
  · cases result
  rename_i within
  split at result
  · cases result
  rename_i gaps
  refine ⟨?_, ordered, by omega, certain.1, fun moving => ?_, fun sampled => ?_⟩
  · by_contra other
    exact matched (.inl other)
  · by_contra outside
    exact within ⟨moving, by omega⟩
  · by_contra uncovered
    exact gaps ⟨sampled, uncovered⟩

/-- Of the points one after the other, two stand around a time that is not before the first. -/
theorem exists_step (first : (a : ℝ) ≤ x) (later : ∃ b ∈ points, x < (b : ℝ)) :
    ∃ gap ∈ (a :: points).zip points, (gap.1 : ℝ) ≤ x ∧ x < (gap.2 : ℝ) := by
  induction points generalizing a with
  | nil =>
    obtain ⟨b, mem, -⟩ := later
    exact absurd mem List.not_mem_nil
  | cons b points ih =>
    by_cases after : x < (b : ℝ)
    · exact ⟨(a, b), List.mem_cons_self, first, after⟩
    · obtain ⟨c, mem, past⟩ := later
      have further : c ∈ points := (List.mem_cons.mp mem).resolve_left fun same => after (same ▸ past)
      obtain ⟨gap, mem, around⟩ := ih (not_lt.mp after) ⟨c, further, past⟩
      exact ⟨gap, List.mem_cons_of_mem _ mem, around⟩

/-- No stretch of the window that is longer than the reduced interval is free of samples. -/
theorem SamplesCover.gap {window : Interval} {uncertainty interval : Int}
    (cover : SamplesCover samples window uncertainty interval) (after : (window.start : ℝ) ≤ x)
    (stretch : x < y) (before : y ≤ (window.stop : ℝ))
    (free : ∀ sample ∈ samples, ¬ (x < (sample : ℝ) ∧ (sample : ℝ) < y)) :
    y - x ≤ (interval : ℝ) - 2 * (uncertainty : ℝ) := by
  have low : (((samples.filter (· ≤ window.start)).getLast?.getD window.start : Int) : ℝ) ≤ x := by
    refine le_trans ?_ after
    cases found : (samples.filter (· ≤ window.start)).getLast? with
    | none => exact le_refl _
    | some sample =>
      have mem := List.mem_filter.mp (List.mem_of_getLast? found)
      exact Int.cast_le.mpr (of_decide_eq_true mem.2)
  have high : (window.stop : ℝ) ≤ ((samples.filter (window.stop ≤ ·)).head?.getD window.stop : Int) := by
    cases found : (samples.filter (window.stop ≤ ·)).head? with
    | none => exact le_refl _
    | some sample =>
      have mem := List.mem_filter.mp (List.mem_of_head? found)
      exact Int.cast_le.mpr (of_decide_eq_true mem.2)
  obtain ⟨gap, mem, left, right⟩ := exists_step low ⟨_, List.mem_append_right
    (samples.filter fun sample => window.start < sample ∧ sample < window.stop) List.mem_cons_self,
    lt_of_lt_of_le stretch (le_trans before high)⟩
  have reach : y ≤ (gap.2 : ℝ) := by
    rcases List.mem_append.mp (List.of_mem_zip mem).2 with inside | last
    · exact not_lt.mp fun early => free gap.2 (List.mem_of_mem_filter inside) ⟨right, early⟩
    · rw [List.mem_singleton.mp last]
      exact le_trans before high
  have short : ((gap.2 - gap.1 + 2 * uncertainty : Int) : ℝ) ≤ interval :=
    Int.cast_le.mpr (cover.2.2 gap mem)
  push_cast at short
  linarith

end

end Reproof.Contracts

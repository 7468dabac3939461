import Reproof.Contracts.Documents

/-! The check that each admitted video source has one durable byte outcome. -/

namespace Reproof.Live.Video

open Library Contracts

abbrev Fields := List (String × Json)

/-- `value.get(key)`. -/
def field (fields : Fields) (key : String) : Option Json :=
  (fields.find? fun pair => pair.1 = key).map Prod.snd

def asDict : Json → Option Fields
  | .dict fields => some fields
  | _ => none

def asList : Json → Option (List Json)
  | .list items => some items
  | _ => none

def asInt : Json → Option Int
  | .int n => some n
  | _ => none

def asStr : Json → Option String
  | .str text => some text
  | _ => none

/-- `value[key]` under its type, none where it is missing or of another type. -/
def intField (fields : Fields) (key : String) : Option Int := (field fields key).bind asInt

def strField (fields : Fields) (key : String) : Option String := (field fields key).bind asStr

def maxSourceFrames : Nat := 10000

def byteLosses : List String := ["captured-dropped", "encoder-accepted-not-durable"]

/-- An entry of the ledger. -/
structure Source where
  acquisitionSequence : Int
  digest : String

def range (value : Json) (maximum : Int) : Except String (Int × Int) := do
  let fields ← (exactly value ["first", "last"]).mapError fun _ => "Invalid video source range"
  let first ← orFail (intField fields "first") "Invalid video source range"
  let last ← orFail (intField fields "last") "Invalid video source range"
  require (1 ≤ first ∧ first ≤ last ∧ last ≤ maximum) "Invalid video source range"
  pure (first, last)

def validateSource (sequence : Nat) (previousNative : Int) (item : Json) :
    Except String Source := do
  let fields ← (exactly item ["sequence", "acquisitionSequence", "digest"]).mapError
    fun _ => "Invalid video source ledger entry"
  let number ← orFail (intField fields "sequence") "Invalid video source identity"
  let native ← orFail (intField fields "acquisitionSequence") "Invalid video source identity"
  let digest ← orFail (strField fields "digest") "Invalid video source identity"
  require (number = sequence ∧ previousNative < native ∧ native < 2 ^ 63 ∧ isDigest digest)
    "Invalid video source identity"
  pure ⟨native, digest⟩

/-- The loop over the ledger. -/
def validateSources (sequence : Nat) (previousNative : Int) :
    List Json → Except String (List Source)
  | [] => pure []
  | item :: rest => do
    let source ← validateSource sequence previousNative item
    let sources ← validateSources (sequence + 1) source.acquisitionSequence rest
    pure (source :: sources)

/-- `covered` and `previous_durable_sequence`. -/
structure Durable where
  covered : List Bool
  previousSequence : Int

def validateFrame (sources : List Source) (state : Durable) (frame : Json) :
    Except String Durable := do
  let fields ← orFail (asDict frame) "Invalid video source frame"
  let sequence ← orFail (intField fields "recordingFrameSequence")
    "Invalid video source frame sequence"
  require (1 ≤ sequence ∧ sequence ≤ sources.length) "Invalid video source frame sequence"
  require (state.previousSequence < sequence) "Durable video source order changed"
  let index := (sequence - 1).toNat
  let item ← orFail sources[index]? "list index out of range"
  require (intField fields "acquisitionSequence" = some item.acquisitionSequence ∧
    strField fields "sourceDigest" = some item.digest ∧ state.covered[index]? = some false)
    "Video source outcome differs or is duplicated"
  pure ⟨state.covered.set index true, sequence⟩

def validateSegment (sources : List Source) (state : Durable) (segment : Json) :
    Except String Durable := do
  let fields ← orFail (asDict segment) "Invalid video source segment"
  let frames ← orFail ((field fields "frames").bind asList) "Invalid video source segment"
  require (frames.length ≤ 256) "Invalid video source segment"
  frames.foldlM (validateFrame sources) state

/-- `for index in indices`, where each must not be covered yet. -/
def cover (covered : List Bool) : List Nat → Except String (List Bool)
  | [] => pure covered
  | index :: rest => do
    require (covered[index]? = some false) "Video source outcome is duplicated"
    cover (covered.set index true) rest

/-- `bisect_left` on ascending numbers. -/
def bisectLeft (numbers : List Int) (number : Int) : Nat :=
  (numbers.takeWhile (· < number)).length

/-- `covered` and `native_ranges`. -/
structure Lost where
  covered : List Bool
  nativeRanges : List (Int × Int)

/-- A loss with a range of frames. -/
def validateFrameLoss (sources : List Source) (state : Lost) (fields : Fields) (value : Json) :
    Except String Lost := do
  let (first, last) ← range value sources.length
  let kind := strField fields "lossClass"
  let bytes := ∃ name ∈ byteLosses, kind = some name
  require (bytes ∨ kind = some "unknown-acquisition-interval")
    "Video source was admitted before its loss"
  require ((field fields "acquisitionSequence").isSome → first = last ∧
    intField fields "acquisitionSequence" =
      sources[(first - 1).toNat]?.map Source.acquisitionSequence)
    "Video source loss identity differs"
  if bytes then do
    let covered ← cover state.covered (List.range' (first - 1).toNat (last - (first - 1)).toNat)
    pure { state with covered }
  else pure state

/-- A loss with a range of native sequences. -/
def validateNativeLoss (sources : List Source) (state : Lost) (fields : Fields) (value : Json) :
    Except String Lost := do
  let (first, last) ← range value (2 ^ 63 - 1)
  require ((∃ name ∈ ["not-acquired", "captured-dropped"], strField fields "lossClass" = some name) ∧
    (∃ name ∈ ["native", "transport"], strField fields "stage" = some name) ∧
    field fields "acquisitionSequence" = none) "Invalid native acquisition loss"
  let nativeSequences := sources.map Source.acquisitionSequence
  let index := bisectLeft nativeSequences first
  require (∀ next ∈ nativeSequences[index]?, next > last)
    "Native loss overlaps an admitted video source"
  pure { state with nativeRanges := state.nativeRanges ++ [(first, last)] }

def validateLoss (sources : List Source) (state : Lost) (loss : Json) : Except String Lost := do
  let fields ← orFail (asDict loss) "Invalid video source loss"
  match field fields "recordingFrameRange", field fields "nativeSequenceRange" with
  | some _, some _ => .error "Video loss has conflicting sequence domains"
  | some value, none => validateFrameLoss sources state fields value
  | none, some value => validateNativeLoss sources state fields value
  | none, none => do
    require ((∃ name ∈ ["not-acquired", "unknown-acquisition-interval"],
      strField fields "lossClass" = some name) ∧ field fields "acquisitionSequence" = none)
      "Video source loss has no sequence domain"
    pure state

/-- The order of pairs of numbers. -/
abbrev RangeLE (a b : Int × Int) : Prop := a.1 < b.1 ∨ a.1 = b.1 ∧ a.2 ≤ b.2

/-- The loop over the sorted native ranges. -/
def ascending (previousEnd : Int) : List (Int × Int) → Except String Unit
  | [] => pure ()
  | (first, last) :: rest => do
    require (previousEnd < first) "Native acquisition loss is duplicated"
    ascending last rest

def validateSourceCoverage (sources segments losses : Json) : Except String Unit := do
  let items ← orFail (asList sources) "Invalid video source ledger"
  require (items.length ≤ maxSourceFrames) "Invalid video source ledger"
  let segments ← orFail (asList segments) "Invalid video source segments"
  require (segments.length ≤ 128) "Invalid video source segments"
  let losses ← orFail (asList losses) "Invalid video source losses"
  require (losses.length ≤ 2 * maxSourceFrames) "Invalid video source losses"
  let ledger ← validateSources 1 0 items
  let durable ← segments.foldlM (validateSegment ledger) ⟨List.replicate ledger.length false, 0⟩
  let lost ← losses.foldlM (validateLoss ledger) ⟨durable.covered, []⟩
  ascending 0 (lost.nativeRanges.insertionSort RangeLE)
  require (∀ outcome ∈ lost.covered, outcome = true) "Video source outcome is missing"

end Reproof.Live.Video

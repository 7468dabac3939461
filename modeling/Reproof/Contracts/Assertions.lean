import Reproof.Contracts.Observation
import Reproof.Library.Kleene

/-! The assertions of an executable specification. -/

namespace Reproof.Contracts

open Library

/-- A JSON value that is neither a list nor a dictionary; `nonFinite` is a float that is no number. -/
inductive Scalar
  | null
  | bool (value : Bool)
  | number (value : Number)
  | nonFinite
  | text (value : String)
  deriving DecidableEq

def maxSafeInteger : Int := 2 ^ 53 - 1

def isBoundedNumber (field : String) : Scalar → Except String Unit
  | .number value =>
    require (-(maxSafeInteger : Rat) ≤ value.value ∧ value.value ≤ maxSafeInteger) ("Invalid " ++ field)
  | _ => .error ("Invalid " ++ field)

/-- `json_scalar`. -/
def isJsonScalar (field : String) : Scalar → Except String Unit
  | .bool _ => .ok ()
  | .text value =>
    require (value.length ≤ 4096 ∧ (∀ c ∈ value.toList, ¬ (c.toNat < 32 ∨ c.toNat = 127)) ∧
      (utf8 value).length ≤ 4096) ("Invalid " ++ field)
  | value => isBoundedNumber field value

/-- `present` stands for `exists`. -/
inductive Operator
  | equals | notEquals | present | absent | lt | lte | gt | gte
  deriving DecidableEq

def Operator.ordering : List Operator := [.lt, .lte, .gt, .gte]

def Operator.comparisons : List Operator := ([.equals, .notEquals] : List Operator) ++ ordering

/-- A predicate of the kind `property`. -/
structure Leaf where
  observationId : String
  property : String
  operator : Operator
  value : Option Scalar

abbrev Predicate := Formula Leaf

/-- `value.get('value')`. -/
def Leaf.wanted (leaf : Leaf) : Scalar := leaf.value.getD .null

def validateLeaf (leaf : Leaf) : Except String Unit := do
  isId "predicate observation id" leaf.observationId
  isId "predicate property" leaf.property
  if leaf.operator ∈ Operator.comparisons then do
    isJsonScalar "predicate value" leaf.wanted
    if leaf.operator ∈ Operator.ordering then isBoundedNumber "numeric predicate" leaf.wanted else .ok ()
  else require (leaf.value = none) "Presence predicate cannot have a value"

mutual

/-- `_predicate(value, depth)`. -/
def validatePredicate : Nat → Predicate → Except String Unit
  | depth, .leaf leaf => do
    require (depth ≤ 4) "Predicate nesting is too deep"
    validateLeaf leaf
  | depth, .node connective children => do
    require (depth ≤ 4) "Predicate nesting is too deep"
    require (1 ≤ children.length ∧ children.length ≤ 8) "Invalid predicate children"
    require (connective ≠ .not ∧ 2 ≤ children.length ∨ connective = .not ∧ children.length = 1)
      "Invalid Boolean predicate arity"
    validatePredicates (depth + 1) children

def validatePredicates : Nat → List Predicate → Except String Unit
  | _, [] => .ok ()
  | depth, child :: children => do
    validatePredicate depth child
    validatePredicates depth children

end

inductive AssertionRole
  | defect | expected

structure Assertion where
  id : String
  role : AssertionRole
  predicate : Predicate
  coverage : CoverageRequirement
  windowMs : Int
  stabilityMs : Int

/-- `_assertion(value)`. -/
def validateAssertion (value : Assertion) : Except String Unit := do
  isId "assertion id" value.id
  validatePredicate 0 value.predicate
  validateCoverageRequirement true value.coverage
  isWithin "assertion window" value.windowMs 0 60000
  isWithin "assertion stability" value.stabilityMs 0 (min 5000 value.windowMs)
  require (value.coverage.windowMs.stop ≤ value.windowMs) "Observation exceeds assertion window"
  require (value.coverage.kind ≠ .snapshot ∨ value.stabilityMs = 0) "A snapshot cannot prove stability"
  require (value.stabilityMs ≤ value.coverage.windowMs.stop - value.coverage.windowMs.start)
    "Stability exceeds observation window"

/-- What is known of the stability of an accepted assertion. -/
structure Stable (value : Assertion) : Prop where
  positive : 0 ≤ value.stabilityMs
  snapshot : value.coverage.kind = .snapshot → value.stabilityMs = 0
  within : value.stabilityMs ≤ value.coverage.windowMs.stop - value.coverage.windowMs.start

theorem stable_of_valid {value : Assertion} (valid : validateAssertion value = .ok ()) : Stable value := by
  simp only [validateAssertion, isWithin, bind_eq_ok, require_eq_ok] at valid
  obtain ⟨-, -, -, -, -, -, -, -, -, ⟨positive, -⟩, -, -, -, kind, within⟩ := valid
  exact ⟨positive, fun snapshot => kind.resolve_left (not_not.mpr snapshot), within⟩

end Reproof.Contracts

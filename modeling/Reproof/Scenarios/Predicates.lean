import Reproof.Contracts.Assertions
import Reproof.Library.Dict
import Reproof.Library.Steps

/-! The values of observations, and the predicates of a scenario that are decided by them. -/

namespace Reproof.Scenarios

open Library Contracts

/-- What evidence reports of a property: points, or one value for the end of the capture. -/
inductive Reported
  | points (list : List (Int × Scalar))
  | value (scalar : Scalar)

def Reported.size : Reported → Nat
  | .points list => list.length
  | .value _ => 1

abbrev Points := List (Int × Scalar)

/-- `_scalar(value)`. -/
def isScalar : Scalar → Except String Unit
  | .nonFinite => .error "observation_invalid"
  | .text value => require ((utf8 value).length ≤ 4096) "observation_invalid"
  | _ => .ok ()

def pointsOf (envelope : Observation) : Reported → Except String Points
  | .points list => do
    require (list.length ≤ 100000) "observation_invalid"
    each list fun point => do
      require (envelope.intervalMs.start ≤ point.1 ∧ point.1 ≤ envelope.intervalMs.stop)
        "observation_invalid"
      isScalar point.2
    -- the times are equal to `sorted(set(times))`
    require (InOrder list) "observation_invalid"
    pure list
  | .value scalar => do
    isScalar scalar
    pure [(envelope.intervalMs.stop, scalar)]

/-- The times of a property are those that the coverage asks for. -/
def AreComplete (envelope : Observation) (times : List Int) : Prop :=
  match envelope.coverage with
  | .sampled => times = envelope.samples ∧ times ≠ []
  | .continuous => times.head? = some envelope.intervalMs.start ∧
      times.getLast? = some envelope.intervalMs.stop
  | .snapshot => True

instance (envelope : Observation) (times : List Int) : Decidable (AreComplete envelope times) := by
  unfold AreComplete
  split <;> infer_instance

def checkedEntries (envelope : Observation) : Nat → Dict String Points → List (String × Reported) →
    Except String (Dict String Points)
  | _, result, [] => pure result
  | totalPoints, result, (key, value) :: rest => do
    isId "observation property" key
    require (key ∈ envelope.properties) "observation_invalid"
    require (totalPoints + value.size ≤ 100000) "observation_invalid"
    let points ← pointsOf envelope value
    require (AreComplete envelope (points.map Prod.fst)) "observation_incomplete"
    checkedEntries envelope (totalPoints + value.size) (result.set key points) rest

/-- `_values(values, envelope)`. -/
def checkedValues (values : Dict String Reported) (envelope : Observation) :
    Except String (Dict String Points) := do
  require (values.entries.length ≤ 128) "observation_invalid"
  checkedEntries envelope 0 .empty values.entries

structure ObservationEvidence where
  envelope : Observation
  values : Dict String Points
  absentProperties : List String

/-- The evidence of a run, by assertion and observation. -/
abbrev Evidence := Dict (String × String) ObservationEvidence

/-- `value < wanted` and its like, of numbers only. -/
def compareNumbers (holds : Rat → Rat → Bool) : Scalar → Scalar → Option Bool
  | .number value, .number wanted => some (holds value.value wanted.value)
  | _, _ => none

def compare (wanted : Scalar) : Operator → Scalar → Option Bool
  | .equals, value => some (value = wanted)
  | .notEquals, value => some (value ≠ wanted)
  | .lt, value => compareNumbers (· < ·) value wanted
  | .lte, value => compareNumbers (· ≤ ·) value wanted
  | .gt, value => compareNumbers (· > ·) value wanted
  | .gte, value => compareNumbers (· ≥ ·) value wanted
  | _, _ => none

/-- The window of an assertion, or the last part of it that has to be stable. -/
def requiredWindow (assertion : Assertion) (bound : CoverageRequirement) : Interval :=
  if assertion.stabilityMs ≠ 0 then
    ⟨bound.windowMs.stop - assertion.stabilityMs, bound.windowMs.stop⟩
  else bound.windowMs

/-- The points of a property that a leaf looks at. -/
def pointsWithin (kind : CoverageClass) (window : Interval) (tolerance : Int) (points : Points) : Points :=
  match kind with
  | .continuous => windowPoints window.start window.stop points
  | .sampled => points.filter fun p => window.start ≤ p.1 ∧ p.1 ≤ window.stop
  | .snapshot => points.filter fun p => window.start - tolerance ≤ p.1 ∧ p.1 ≤ window.stop + tolerance

/-- What a leaf says of the points that it looks at. -/
def judge (kind : CoverageClass) (leaf : Leaf) (points : Points) : Option Bool :=
  if points = [] then none
  else match leaf.operator with
    | .present => some true
    | .absent => some false
    | operator =>
      let points := if kind = .snapshot then points.getLast?.toList else points
      let results := points.map fun p => compare leaf.wanted operator p.2
      if none ∈ results then none else some (results.all (· = some true))

def evaluateLeaf (assertion : Assertion) (anchor : Int) (evidence : Evidence) (leaf : Leaf) :
    Except String (Option Bool) :=
  match evidence.get? (assertion.id, leaf.observationId) with
  | none => .ok none
  | some item => do
    let bound ← bindCoverageRequirement assertion.coverage anchor
    if leaf.property ∈ item.absentProperties then
      pure (match leaf.operator with
        | .absent => some true
        | .present => some false
        | _ => none)
    else
      pure (judge assertion.coverage.kind leaf (pointsWithin assertion.coverage.kind
        (requiredWindow assertion bound) bound.maxUncertaintyMs
        ((item.values.get? leaf.property).getD [])))

mutual

/-- `_predicate(predicate, assertion, anchor, evidence)`. -/
def evaluate (assertion : Assertion) (anchor : Int) (evidence : Evidence) :
    Predicate → Except String (Option Bool)
  | .leaf leaf => evaluateLeaf assertion anchor evidence leaf
  | .node connective children => do
    let results ← evaluateAll assertion anchor evidence children
    pure (connective.decide results)

def evaluateAll (assertion : Assertion) (anchor : Int) (evidence : Evidence) :
    List Predicate → Except String (List (Option Bool))
  | [] => pure []
  | child :: children => do
    let result ← evaluate assertion anchor evidence child
    let results ← evaluateAll assertion anchor evidence children
    pure (result :: results)

end

section Values

variable {envelope : Observation} {values : Dict String Reported} {result before : Dict String Points}
  {reported : Reported} {points : Points} {property : String} {total : Nat}
  {entries : List (String × Reported)}

/-- What is checked of the points of a property. -/
structure AreChecked (envelope : Observation) (points : Points) : Prop where
  ordered : InOrder points
  complete : AreComplete envelope (points.map Prod.fst)

theorem inOrder_of_pointsOf (read : pointsOf envelope reported = .ok points) : InOrder points := by
  cases reported with
  | points list =>
    simp only [pointsOf, bind_eq_ok, require_eq_ok, pure_eq_ok] at read
    obtain ⟨-, -, -, -, -, ordered, rfl⟩ := read
    exact ordered
  | value scalar =>
    simp only [pointsOf, bind_eq_ok, pure_eq_ok] at read
    obtain ⟨-, -, rfl⟩ := read
    exact List.pairwise_singleton _ _

theorem checked_of_checkedEntries
    (known : ∀ property points, before.get? property = some points → AreChecked envelope points)
    (read : checkedEntries envelope total before entries = .ok result)
    (found : result.get? property = some points) : AreChecked envelope points := by
  induction entries generalizing total before with
  | nil =>
    cases read
    exact known property points found
  | cons entry entries ih =>
    simp only [checkedEntries, bind_eq_ok, require_eq_ok] at read
    obtain ⟨-, -, -, -, -, -, added, read, -, complete, rest⟩ := read
    refine ih (fun property points found => ?_) rest
    rw [Dict.get?_set] at found
    split at found
    · cases found
      exact ⟨inOrder_of_pointsOf read, complete⟩
    · exact known property points found

theorem checked_of_checkedValues (read : checkedValues values envelope = .ok result)
    (found : result.get? property = some points) : AreChecked envelope points := by
  simp only [checkedValues, bind_eq_ok] at read
  obtain ⟨-, -, read⟩ := read
  exact checked_of_checkedEntries (fun _ _ none => by cases none) read found

end Values

/-- What a comparison says of a value. -/
def Compares (wanted : Scalar) (operator : Operator) (value : Scalar) : Prop :=
  match operator with
  | .equals => value = wanted
  | .notEquals => value ≠ wanted
  | .lt => ∃ x y, value = .number x ∧ wanted = .number y ∧ x.value < y.value
  | .lte => ∃ x y, value = .number x ∧ wanted = .number y ∧ x.value ≤ y.value
  | .gt => ∃ x y, value = .number x ∧ wanted = .number y ∧ y.value < x.value
  | .gte => ∃ x y, value = .number x ∧ wanted = .number y ∧ y.value ≤ x.value
  | .present => True
  | .absent => False

/-- A point is the last one of the window, with the tolerance on both sides. -/
def IsLastWithin (window : Interval) (tolerance : Int) (points : Points) (p : Int × Scalar) : Prop :=
  p ∈ points ∧ window.start - tolerance ≤ p.1 ∧ p.1 ≤ window.stop + tolerance ∧
    ∀ q ∈ points, q.1 ≤ window.stop + tolerance → q.1 ≤ p.1

/-- A property of values holds over the window, as the class of the coverage means it. -/
def HoldsOver (kind : CoverageClass) (window : Interval) (tolerance : Int) (points : Points)
    (good : Scalar → Prop) : Prop :=
  match kind with
  | .continuous => ∀ t : ℝ, (window.start : ℝ) ≤ t → t ≤ (window.stop : ℝ) →
      ∃ value, StepAt points t value ∧ good value
  | .sampled => (∃ p ∈ points, window.start ≤ p.1 ∧ p.1 ≤ window.stop) ∧
      ∀ p ∈ points, window.start ≤ p.1 → p.1 ≤ window.stop → good p.2
  | .snapshot => ∃ p, IsLastWithin window tolerance points p ∧ good p.2

/-- A property of values fails somewhere in the window. -/
def FailsWithin (kind : CoverageClass) (window : Interval) (tolerance : Int) (points : Points)
    (good : Scalar → Prop) : Prop :=
  match kind with
  | .continuous => ∃ t : ℝ, (window.start : ℝ) ≤ t ∧ t ≤ (window.stop : ℝ) ∧
      ∃ value, StepAt points t value ∧ ¬ good value
  | .sampled => ∃ p ∈ points, window.start ≤ p.1 ∧ p.1 ≤ window.stop ∧ ¬ good p.2
  | .snapshot => ∃ p, IsLastWithin window tolerance points p ∧ ¬ good p.2

section Judged

variable {wanted value : Scalar} {operator : Operator} {b : Bool} {kind : CoverageClass} {leaf : Leaf}
  {points : Points} {window : Interval} {tolerance : Int} {p : Int × Scalar}

theorem compareNumbers_eq_some {holds : Rat → Rat → Bool} :
    compareNumbers holds value wanted = some b ↔
      ∃ x y, value = .number x ∧ wanted = .number y ∧ holds x.value y.value = b := by
  constructor
  · intro found
    unfold compareNumbers at found
    split at found
    · exact ⟨_, _, rfl, rfl, Option.some.inj found⟩
    · cases found
  · rintro ⟨x, y, rfl, rfl, rfl⟩
    rfl

/-- A comparison that is decided says whether the value compares. -/
theorem compares_of_compare (found : compare wanted operator value = some b) :
    b = true ↔ Compares wanted operator value := by
  have numbers {r : Rat → Rat → Prop} [∀ x y, Decidable (r x y)]
      (found : compareNumbers (fun x y => decide (r x y)) value wanted = some b) :
      b = true ↔ ∃ x y, value = .number x ∧ wanted = .number y ∧ r x.value y.value := by
    obtain ⟨x, y, rfl, rfl, rfl⟩ := compareNumbers_eq_some.mp found
    simp
  cases operator with
  | equals => simp [Compares, ← Option.some.inj found]
  | notEquals => simp [Compares, ← Option.some.inj found]
  | lt => exact numbers found
  | lte => exact numbers found
  | gt => exact numbers found
  | gte => exact numbers found
  | present => cases found
  | absent => cases found

/-- The points that a leaf compares. -/
def compared (kind : CoverageClass) (points : Points) : Points :=
  if kind = .snapshot then points.getLast?.toList else points

theorem judge_comparison (comparison : operator ∈ Operator.comparisons) (same : leaf.operator = operator) :
    judge kind leaf points = if points = [] then none
      else if none ∈ (compared kind points).map fun p => compare leaf.wanted operator p.2 then none
      else some (((compared kind points).map fun p => compare leaf.wanted operator p.2).all (· = some true)) := by
  unfold judge compared
  rw [same]
  cases operator <;> first | rfl | exact absurd comparison (by decide)

theorem judge_true (judged : judge kind leaf points = some true) :
    points ≠ [] ∧ leaf.operator ≠ .absent ∧
      ∀ p ∈ compared kind points, Compares leaf.wanted leaf.operator p.2 := by
  by_cases comparison : leaf.operator ∈ Operator.comparisons
  · rw [judge_comparison comparison rfl] at judged
    split at judged
    · cases judged
    split at judged
    · cases judged
    rename_i filled _
    refine ⟨filled, fun absent => ?_, fun p mem => ?_⟩
    · rw [absent] at comparison
      exact absurd comparison (by decide)
    · have all := List.all_eq_true.mp (Option.some.inj judged) _ (List.mem_map_of_mem mem)
      exact (compares_of_compare (of_decide_eq_true all)).mp rfl
  · unfold judge at judged
    split at judged
    · cases judged
    rename_i filled
    cases operator : leaf.operator with
    | present => exact ⟨filled, by simp, fun _ _ => trivial⟩
    | absent =>
      rw [operator] at judged
      cases judged
    | _ =>
      rw [operator] at comparison
      exact absurd (by decide) comparison

theorem judge_false (judged : judge kind leaf points = some false)
    (comparison : leaf.operator ∈ Operator.comparisons) :
    ∃ p ∈ compared kind points, ¬ Compares leaf.wanted leaf.operator p.2 := by
  rw [judge_comparison comparison rfl] at judged
  split at judged
  · cases judged
  split at judged
  · cases judged
  rename_i known
  obtain ⟨result, mem, wrong⟩ := List.all_eq_false.mp (Option.some.inj judged)
  obtain ⟨p, there, rfl⟩ := List.mem_map.mp mem
  refine ⟨p, there, fun compares => ?_⟩
  cases found : compare leaf.wanted leaf.operator p.2 with
  | none => exact known (found ▸ mem)
  | some b => exact wrong (by rw [found, (compares_of_compare found).mpr compares]; rfl)

theorem isLastWithin (ordered : InOrder points)
    (last : (pointsWithin .snapshot window tolerance points).getLast? = some p) :
    IsLastWithin window tolerance points p := by
  obtain ⟨mem, within⟩ := List.mem_filter.mp (List.mem_of_getLast? last)
  have bounds := of_decide_eq_true within
  refine ⟨mem, bounds.1, bounds.2, fun q there early => ?_⟩
  by_cases late : window.start - tolerance ≤ q.1
  · exact le_of_getLast? (List.Pairwise.filter _ ordered) last q
      (List.mem_filter.mpr ⟨there, decide_eq_true ⟨late, early⟩⟩)
  · omega

/-- A leaf that is judged true holds over the whole window. -/
theorem holdsOver_of_judge (ordered : InOrder points)
    (begun : kind = .continuous → ∃ p ∈ points, p.1 ≤ window.start)
    (judged : judge kind leaf (pointsWithin kind window tolerance points) = some true) :
    HoldsOver kind window tolerance points (Compares leaf.wanted leaf.operator) := by
  obtain ⟨filled, -, all⟩ := judge_true judged
  cases kind with
  | continuous =>
    intro t after before
    obtain ⟨p, mem, step⟩ := exists_windowPoint ordered (begun rfl) after before
    exact ⟨p.2, step, all p mem⟩
  | sampled =>
    obtain ⟨p, mem⟩ := List.exists_mem_of_ne_nil _ filled
    obtain ⟨there, within⟩ := List.mem_filter.mp mem
    refine ⟨⟨p, there, of_decide_eq_true within⟩, fun q there after before => ?_⟩
    exact all q (List.mem_filter.mpr ⟨there, decide_eq_true ⟨after, before⟩⟩)
  | snapshot =>
    cases last : (pointsWithin .snapshot window tolerance points).getLast? with
    | none => exact absurd (List.getLast?_eq_none_iff.mp last) filled
    | some p =>
      refine ⟨p, isLastWithin ordered last, all p ?_⟩
      rw [compared, if_pos rfl, last]
      exact List.mem_singleton_self p

/-- A comparison that is judged false fails somewhere in the window. -/
theorem failsWithin_of_judge (ordered : InOrder points) (proper : window.start ≤ window.stop)
    (judged : judge kind leaf (pointsWithin kind window tolerance points) = some false)
    (comparison : leaf.operator ∈ Operator.comparisons) :
    FailsWithin kind window tolerance points (Compares leaf.wanted leaf.operator) := by
  obtain ⟨p, mem, fails⟩ := judge_false judged comparison
  cases kind with
  | continuous =>
    obtain ⟨t, after, before, step⟩ := stepAt_windowPoint ordered proper mem
    exact ⟨t, after, before, p.2, step, fails⟩
  | sampled =>
    obtain ⟨there, within⟩ := List.mem_filter.mp mem
    exact ⟨p, there, (of_decide_eq_true within).1, (of_decide_eq_true within).2, fails⟩
  | snapshot =>
    rw [compared, if_pos rfl] at mem
    exact ⟨p, isLastWithin ordered (by simpa using mem), fails⟩

end Judged

/-- The values are checked, and the envelope covers what the accepted assertion requires from the
anchor on. -/
structure Observed (assertion : Assertion) (anchor : Int) (bound : CoverageRequirement)
    (envelope : Observation) (points : Dict String Points) : Prop where
  accepted : validateAssertion assertion = .ok ()
  binds : bindCoverageRequirement assertion.coverage anchor = .ok bound
  values : ∃ values, checkedValues values envelope = .ok points
  covered : ∃ now, observationResult envelope bound now = .ok .covered

/-- What a leaf says of the whole required window. -/
def LeafHolds (assertion : Assertion) (bound : CoverageRequirement) (item : ObservationEvidence)
    (leaf : Leaf) : Prop :=
  if leaf.operator = .absent then leaf.property ∈ item.absentProperties
  else HoldsOver assertion.coverage.kind (requiredWindow assertion bound) bound.maxUncertaintyMs
    ((item.values.get? leaf.property).getD []) (Compares leaf.wanted leaf.operator)

def LeafFails (assertion : Assertion) (bound : CoverageRequirement) (item : ObservationEvidence)
    (leaf : Leaf) : Prop :=
  FailsWithin assertion.coverage.kind (requiredWindow assertion bound) bound.maxUncertaintyMs
    ((item.values.get? leaf.property).getD []) (Compares leaf.wanted leaf.operator)

section Evaluated

variable {assertion : Assertion} {anchor : Int} {bound : CoverageRequirement} {envelope : Observation}
  {points : Dict String Points} {evidence : Evidence} {absent : List String} {leaf : Leaf}
  {result : Option Bool} {predicate : Predicate} {window : Interval} {tolerance : Int}
  {kind : CoverageClass} {b : Bool}

theorem bound_of_bind (binds : bindCoverageRequirement assertion.coverage anchor = .ok bound) :
    bound.kind = assertion.coverage.kind ∧
      bound.windowMs.stop - bound.windowMs.start =
        assertion.coverage.windowMs.stop - assertion.coverage.windowMs.start := by
  simp only [bindCoverageRequirement, bind_eq_ok, pure_eq_ok] at binds
  obtain ⟨-, -, -, -, -, -, -, -, rfl⟩ := binds
  exact ⟨rfl, by simp only; omega⟩

theorem judge_nothing : judge kind leaf (pointsWithin kind window tolerance []) = none := by
  cases kind <;> rfl

namespace Observed

variable (observed : Observed assertion anchor bound envelope points)

include observed

/-- The required window lies within the one of the requirement. -/
theorem window_within : bound.windowMs.start ≤ (requiredWindow assertion bound).start ∧
    (requiredWindow assertion bound).start ≤ (requiredWindow assertion bound).stop := by
  obtain ⟨now, covered⟩ := observed.covered
  have stable := stable_of_valid observed.accepted
  have length := (bound_of_bind observed.binds).2
  have positive := stable.positive
  have within := stable.within
  have proper := (covers_of_covered covered).window
  unfold requiredWindow
  split
  · simp only
    omega
  · exact ⟨le_refl _, proper⟩

/-- The points of a property begin before the window of continuous coverage. -/
theorem begun {list : Points} (checked : AreChecked envelope list)
    (continuous : assertion.coverage.kind = .continuous) :
    ∃ p ∈ list, p.1 ≤ (requiredWindow assertion bound).start := by
  obtain ⟨now, covered⟩ := observed.covered
  have covers := covers_of_covered covered
  have kind : bound.kind = .continuous := (bound_of_bind observed.binds).1.trans continuous
  have within := (covers.within (by rw [kind]; decide)).1
  have certain := covers.certain
  have window := observed.window_within.1
  have complete := checked.complete
  rw [AreComplete, covers.kind, kind] at complete
  have begins := complete.1
  rw [List.head?_map] at begins
  obtain ⟨p, head, same⟩ := Option.map_eq_some_iff.mp begins
  exact ⟨p, List.mem_of_head? head, by omega⟩

theorem evaluated (found : evidence.get? (assertion.id, leaf.observationId) = some ⟨envelope, points, absent⟩)
    (judged : evaluateLeaf assertion anchor evidence leaf = .ok (some b)) :
    (leaf.property ∈ absent ∧ ((leaf.operator = .absent ∧ b = true) ∨ leaf.operator = .present ∧ b = false)) ∨
      ∃ list, points.get? leaf.property = some list ∧ AreChecked envelope list ∧
        judge assertion.coverage.kind leaf (pointsWithin assertion.coverage.kind
          (requiredWindow assertion bound) bound.maxUncertaintyMs list) = some b := by
  obtain ⟨values, read⟩ := observed.values
  simp only [evaluateLeaf, found, bind_eq_ok] at judged
  obtain ⟨bound', binds, judged⟩ := judged
  obtain rfl : bound = bound' := Except.ok.inj (observed.binds.symm.trans binds)
  split at judged
  · rename_i gone
    refine .inl ⟨gone, ?_⟩
    cases operator : leaf.operator <;> rw [operator] at judged <;> cases judged
    · exact .inr ⟨rfl, rfl⟩
    · exact .inl ⟨rfl, rfl⟩
  · rw [pure_eq_ok] at judged
    cases there : points.get? leaf.property with
    | none =>
      rw [there, Option.getD_none, judge_nothing] at judged
      cases judged
    | some list =>
      rw [there, Option.getD_some] at judged
      exact .inr ⟨list, rfl, checked_of_checkedValues read there, judged⟩

/-- A leaf that is true holds over the whole required window. -/
theorem leaf_holds
    (found : evidence.get? (assertion.id, leaf.observationId) = some ⟨envelope, points, absent⟩)
    (judged : evaluateLeaf assertion anchor evidence leaf = .ok (some true)) :
    LeafHolds assertion bound ⟨envelope, points, absent⟩ leaf := by
  unfold LeafHolds
  rcases observed.evaluated found judged with ⟨gone, ⟨operator, -⟩ | ⟨-, wrong⟩⟩ | ⟨list, there, checked, judged⟩
  · rw [if_pos operator]
    exact gone
  · cases wrong
  · rw [if_neg (judge_true judged).2.1, there]
    exact holdsOver_of_judge checked.ordered (observed.begun checked) judged

/-- A comparison that is false fails somewhere in the required window. -/
theorem leaf_fails
    (found : evidence.get? (assertion.id, leaf.observationId) = some ⟨envelope, points, absent⟩)
    (judged : evaluateLeaf assertion anchor evidence leaf = .ok (some false))
    (comparison : leaf.operator ∈ Operator.comparisons) :
    LeafFails assertion bound ⟨envelope, points, absent⟩ leaf := by
  unfold LeafFails
  rcases observed.evaluated found judged with ⟨-, ⟨-, wrong⟩ | ⟨operator, -⟩⟩ | ⟨list, there, checked, judged⟩
  · cases wrong
  · rw [operator] at comparison
    exact absurd comparison (by decide)
  · rw [there]
    exact failsWithin_of_judge checked.ordered observed.window_within.2 judged comparison

end Observed

/-- The result of a leaf, which is unknown also where the leaf raises. -/
def leafResult (assertion : Assertion) (anchor : Int) (evidence : Evidence) (leaf : Leaf) : Option Bool :=
  (evaluateLeaf assertion anchor evidence leaf).toOption.join

mutual

theorem evaluate_eq : ∀ {predicate : Predicate} {result : Option Bool},
    evaluate assertion anchor evidence predicate = .ok result →
      result = predicate.value (leafResult assertion anchor evidence)
  | .leaf leaf, result, evaluated => by
    have evaluated : evaluateLeaf assertion anchor evidence leaf = .ok result := evaluated
    change result = leafResult assertion anchor evidence leaf
    rw [leafResult, evaluated]
    cases result <;> rfl
  | .node connective children, result, evaluated => by
    simp only [evaluate, bind_eq_ok, pure_eq_ok] at evaluated
    obtain ⟨results, children', rfl⟩ := evaluated
    rw [evaluateAll_eq children', Formula.value]

theorem evaluateAll_eq : ∀ {predicates : List Predicate} {results : List (Option Bool)},
    evaluateAll assertion anchor evidence predicates = .ok results →
      results = Formula.valueAll (leafResult assertion anchor evidence) predicates
  | [], results, evaluated => by
    cases evaluated
    rfl
  | child :: children, results, evaluated => by
    simp only [evaluateAll, bind_eq_ok, pure_eq_ok] at evaluated
    obtain ⟨result, first, rest, others, rfl⟩ := evaluated
    rw [evaluate_eq first, evaluateAll_eq others, Formula.valueAll]

end

end Evaluated

/-- Leaves are decided soundly over the required window, connectives whatever the unknown leaves are,
and samples that cover a window leave no long stretch of it. -/
theorem predicates_sound (assertion : Assertion) (anchor : Int) (evidence : Evidence) :
    (∀ bound envelope points absent leaf, Observed assertion anchor bound envelope points →
      evidence.get? (assertion.id, leaf.observationId) = some ⟨envelope, points, absent⟩ →
      (evaluateLeaf assertion anchor evidence leaf = .ok (some true) →
        LeafHolds assertion bound ⟨envelope, points, absent⟩ leaf) ∧
      (evaluateLeaf assertion anchor evidence leaf = .ok (some false) →
        leaf.operator ∈ Operator.comparisons →
        LeafFails assertion bound ⟨envelope, points, absent⟩ leaf)) ∧
    (∀ predicate result, evaluate assertion anchor evidence predicate = .ok result →
      result = predicate.value (leafResult assertion anchor evidence) ∧
      ∀ replaced : Formula (Leaf × Option Bool), replaced.map Prod.fst = predicate →
        (∀ entry ∈ replaced.leaves, Refines (leafResult assertion anchor evidence entry.1) entry.2) →
        Refines result (replaced.value Prod.snd)) ∧
    ∀ envelope requirement now, observationResult envelope requirement now = .ok .covered →
      requirement.kind = .sampled → ∀ x y : ℝ, (requirement.windowMs.start : ℝ) ≤ x → x < y →
      y ≤ (requirement.windowMs.stop : ℝ) →
      (∀ sample ∈ envelope.samples, ¬ (x < (sample : ℝ) ∧ (sample : ℝ) < y)) →
      y - x ≤ (requirement.samplingIntervalMs.getD 0 : ℝ) - 2 * (envelope.clockUncertaintyMs : ℝ) := by
  refine ⟨fun bound envelope points absent leaf observed found => ?_, fun predicate result evaluated => ?_,
    fun envelope requirement now covered sampled x y after stretch before free => ?_⟩
  · exact ⟨observed.leaf_holds found, observed.leaf_fails found⟩
  · have same := evaluate_eq evaluated
    refine ⟨same, fun replaced shape refined => ?_⟩
    rw [same, ← shape, Formula.value_map]
    exact Formula.value_refined replaced refined
  · exact (covers_of_covered covered).sampled sampled |>.gap after stretch before free

/-- The title is to be shown in the last tenth of a second. -/
def shown : Leaf := ⟨"screen", "title", .equals, some (.text "done")⟩

def showing : Assertion where
  id := "title-shown"
  role := .expected
  predicate := .node .not [.node .not [.leaf shown]]
  coverage := ⟨.sampled, ⟨0, 200⟩, 0, 1000, .root, ["title"], some 100⟩
  windowMs := 200
  stabilityMs := 100

def sampledScreen : Observation where
  schemaVersion := 1
  id := "screen"
  providerIncarnation := "provider"
  applicationId := "app"
  intervalMs := ⟨950, 1220⟩
  clockUncertaintyMs := 0
  scope := .root
  targets := []
  properties := ["title"]
  errors := []
  limits := ⟨1, 1, 1⟩
  truncated := false
  completeness := .complete
  coverage := .sampled
  samplesMs := some [950, 1040, 1130, 1220]

def sampledTitle : Points :=
  [(950, .null), (1040, .text "busy"), (1130, .text "done"), (1220, .text "done")]

def sampledEvidence : Evidence :=
  Dict.empty.set ("title-shown", "screen") ⟨sampledScreen, Dict.empty.set "title" sampledTitle, []⟩

def boundShowing : CoverageRequirement := { showing.coverage with windowMs := ⟨1000, 1200⟩ }

theorem sampledScreen_covered : observationResult sampledScreen boundShowing 1300 = .ok .covered := by
  decide +kernel

theorem shown_sound :
    LeafHolds showing boundShowing ⟨sampledScreen, Dict.empty.set "title" sampledTitle, []⟩ shown ∧
      Refines (some true) (Formula.value Prod.snd
        (.node .not [.node .not [.leaf (shown, some true)]] : Formula (Leaf × Option Bool))) ∧
      (1120 : ℝ) - 1050 ≤ ((100 : Int) : ℝ) - 2 * ((0 : Int) : ℝ) := by
  have sound := predicates_sound showing 1000 sampledEvidence
  have judged : evaluateLeaf showing 1000 sampledEvidence shown = .ok (some true) := by decide +kernel
  refine ⟨?_, ?_, ?_⟩
  · refine (sound.1 boundShowing sampledScreen (Dict.empty.set "title" sampledTitle) [] shown ?_ rfl).1 judged
    refine ⟨by decide +kernel, by decide +kernel,
      ⟨Dict.empty.set "title" (.points sampledTitle), by decide +kernel⟩, 1300, sampledScreen_covered⟩
  · refine (sound.2.1 showing.predicate (some true) (by decide +kernel)).2 _ rfl ?_
    refine List.forall_mem_singleton.mpr fun b same => ?_
    rw [leafResult, judged] at same
    exact same
  · refine sound.2.2 sampledScreen boundShowing 1300 sampledScreen_covered rfl 1050 1120 ?_ ?_ ?_ ?_
    · change ((1000 : Int) : ℝ) ≤ 1050
      norm_num
    · norm_num
    · change (1120 : ℝ) ≤ ((1200 : Int) : ℝ)
      norm_num
    · change ∀ sample ∈ ([950, 1040, 1130, 1220] : List Int), _
      norm_num

end Reproof.Scenarios

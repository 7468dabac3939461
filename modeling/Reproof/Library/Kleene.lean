import Mathlib.Data.List.Forall2

/-! Formulas whose leaves may be unknown, with the strong three-valued connectives. -/

universe u v

namespace Reproof.Library

inductive Connective
  | all | any | not
  deriving DecidableEq

inductive Formula (α : Type u)
  | leaf (a : α)
  | node (connective : Connective) (children : List (Formula α))

/-- One result is the other, unless it is unknown. -/
def Refines (result result' : Option Bool) : Prop := ∀ b, result = some b → result' = some b

instance lawfulBEqResult : LawfulBEq (Option Bool) := inferInstance

def Connective.decide : Connective → List (Option Bool) → Option Bool
  | .not, results => (results.head?.getD none).map fun b => !b
  | .all, results => if some false ∈ results then some false else if none ∈ results then none else some true
  | .any, results => if some true ∈ results then some true else if none ∈ results then none else some false

namespace Formula

variable {α : Type u} {β : Type v}

mutual

def leaves : Formula α → List α
  | .leaf a => [a]
  | .node _ children => leavesAll children

def leavesAll : List (Formula α) → List α
  | [] => []
  | child :: children => leaves child ++ leavesAll children

end

mutual

def map (f : α → β) : Formula α → Formula β
  | .leaf a => .leaf (f a)
  | .node connective children => .node connective (mapAll f children)

def mapAll (f : α → β) : List (Formula α) → List (Formula β)
  | [] => []
  | child :: children => map f child :: mapAll f children

end

mutual

/-- The three-valued result of a formula, from those of its leaves. -/
def value (f : α → Option Bool) : Formula α → Option Bool
  | .leaf a => f a
  | .node connective children => connective.decide (valueAll f children)

def valueAll (f : α → Option Bool) : List (Formula α) → List (Option Bool)
  | [] => []
  | child :: children => value f child :: valueAll f children

end

end Formula

section

variable {α : Type u} {results results' : List (Option Bool)} {b : Bool}

theorem mem_of_refined (refined : List.Forall₂ Refines results results') (mem : some b ∈ results) :
    some b ∈ results' := by
  induction refined with
  | nil => exact mem
  | cons first _ ih =>
    cases mem with
    | head => exact (first b rfl) ▸ List.mem_cons_self
    | tail _ mem => exact List.mem_cons_of_mem _ (ih mem)

theorem refined_known (refined : List.Forall₂ Refines results results') (known : none ∉ results) :
    results' = results := by
  induction refined with
  | nil => rfl
  | @cons result result' _ _ first _ ih =>
    rw [List.mem_cons, not_or] at known
    cases result with
    | none => exact absurd rfl known.1
    | some b => rw [first b rfl, ih known.2]

/-- A connective that is decided stays so, whatever its unknown arguments turn out to be. -/
theorem Connective.decide_refined {connective : Connective}
    (refined : List.Forall₂ Refines results results') :
    Refines (connective.decide results) (connective.decide results') := by
  intro b decided
  cases connective with
  | not =>
    cases refined with
    | nil => exact decided
    | @cons result result' _ _ first _ =>
      cases result with
      | none => cases decided
      | some c =>
        have same := first c rfl
        simp only [Connective.decide, List.head?_cons, Option.getD_some] at decided ⊢
        rw [same]
        exact decided
  | all =>
    simp only [Connective.decide] at decided ⊢
    split at decided
    · rename_i found
      rw [if_pos (mem_of_refined refined found)]
      exact decided
    · rename_i free
      split at decided
      · cases decided
      · rename_i known
        rw [refined_known refined known, if_neg free, if_neg known]
        exact decided
  | any =>
    simp only [Connective.decide] at decided ⊢
    split at decided
    · rename_i found
      rw [if_pos (mem_of_refined refined found)]
      exact decided
    · rename_i free
      split at decided
      · cases decided
      · rename_i known
        rw [refined_known refined known, if_neg free, if_neg known]
        exact decided

namespace Formula

variable {f g : α → Option Bool}

mutual

/-- A definite result stands when unknown leaves are replaced. -/
theorem value_refined : ∀ formula : Formula α, (∀ a ∈ formula.leaves, Refines (f a) (g a)) →
    Refines (formula.value f) (formula.value g)
  | .leaf a, refined => refined a (List.mem_singleton_self a)
  | .node _ children, refined => Connective.decide_refined (valueAll_refined children refined)

theorem valueAll_refined : ∀ formulas : List (Formula α), (∀ a ∈ leavesAll formulas, Refines (f a) (g a)) →
    List.Forall₂ Refines (valueAll f formulas) (valueAll g formulas)
  | [], _ => .nil
  | child :: children, refined =>
    .cons (value_refined child fun a mem => refined a (List.mem_append_left _ mem))
      (valueAll_refined children fun a mem => refined a (List.mem_append_right _ mem))

end

mutual

theorem value_map {β : Type v} {f : β → Option Bool} {h : α → β} : ∀ formula : Formula α,
    (formula.map h).value f = formula.value fun a => f (h a)
  | .leaf _ => rfl
  | .node connective children => congrArg connective.decide (valueAll_map children)

theorem valueAll_map {β : Type v} {f : β → Option Bool} {h : α → β} : ∀ formulas : List (Formula α),
    valueAll f (mapAll h formulas) = valueAll (fun a => f (h a)) formulas
  | [] => rfl
  | child :: children => by rw [mapAll, valueAll, value_map child, valueAll_map children, valueAll]

end

end Formula

end

end Reproof.Library
